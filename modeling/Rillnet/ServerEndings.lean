import Rillnet.ServerDraining

/-!
# What a step does that answers are about

A server gives frames to its queue in two situations: it refuses a frame it has just
read, or a handler coroutine comes to its end. Every step dispatches a frame, ends
one coroutine, or does neither and gives nothing to the queue.
-/

namespace Rillnet

section Endings

variable {τ : Type} {ν : τ → Type}

namespace ServerConnection

variable (server : ServerConnection ν) (invocation : Nat)

/-- A method of an operation brings no handler and takes none away. -/
@[simp] theorem callOperation_length (call : Operation StreamId → Operation StreamId × Bool) :
    (server.callOperation invocation call).1.invocations.length = server.invocations.length := by
  unfold callOperation
  split
  · rfl
  · exact List.length_set

/-- The coroutine is at its end. -/
def HasEnded : Prop :=
  ∃ new, server.invocations[invocation]? = some new ∧ new.stage = .finished

/-- The end of a handler is final. -/
theorem finishHandler_ended (bound : invocation < server.invocations.length) :
    (server.finishHandler invocation).HasEnded invocation := by
  have found := List.getElem?_eq_getElem bound
  have book_eq := server.finishHandler_book found
  have invocations : (server.finishHandler invocation).invocations =
      server.invocations.set invocation { server.invocations[invocation] with stage := .finished } :=
    congrArg Book.invocations book_eq
  refine ⟨{ server.invocations[invocation] with stage := .finished }, ?_, rfl⟩
  rw [invocations, getElem?_set_found _ found, if_pos rfl]

/-- A handler whose response was answered by the queue has ended. -/
theorem afterOffer_ended {offered : WriteQueue × Option WriteResult} {result : WriteResult}
    (answered : offered.2 = some result) (bound : invocation < server.invocations.length) :
    (server.afterOffer invocation offered).HasEnded invocation := by
  unfold afterOffer
  rw [answered]
  apply finishHandler_ended
  simpa [modifyInvocation] using bound

section Steps

variable [DecidableEq τ] {registry : MessageRegistry τ} {codec : Codec τ ν}

/-- An event that ends a coroutine finds it running and leaves it at its end. -/
theorem ending_ended (sound : server.book.Sound) {event : ServerEvent ν}
    {after : ServerConnection ν} {invocation : Nat} {ending : Ending}
    (stepped : server.step registry codec event = some after)
    (ended : server.ending registry codec event = some (invocation, ending)) :
    (∃ object, server.invocations[invocation]? = some object ∧ object.stage ≠ .finished) ∧
      after.HasEnded invocation := by
  cases event with
  | startHandler place =>
    simp only [ServerConnection.ending] at ended
    obtain ⟨object, found, rejected⟩ := Option.bind_eq_some_iff.mp ended
    have bound := (List.getElem?_eq_some_iff.mp found).1
    cases server.step_acts stepped (by simp) with
    | startHandler _ other here spawned =>
      obtain rfl : object = other := Option.some.inj (found.symm.trans here)
      split at rejected
      · simp at rejected
      · rename_i failed
        obtain ⟨rfl, -⟩ := Prod.mk.inj (Option.some.inj rejected)
        refine ⟨⟨object, found, by simp [spawned]⟩, ?_⟩
        unfold startHandler
        rw [if_neg failed]
        apply finishHandler_ended
        simpa [sendOperationError] using bound
  | handlerReturns place type value =>
    simp only [ServerConnection.ending] at ended
    obtain ⟨object, found, outcome⟩ := Option.bind_eq_some_iff.mp ended
    have bound := (List.getElem?_eq_some_iff.mp found).1
    obtain ⟨handling, rfl⟩ : object.stage = .handling ∧
        after = server.handlerReturns registry codec place object type value := by
      cases server.step_acts stepped (by simp) with
      | handlerReturns _ _ _ other here handling =>
        obtain rfl : object = other := Option.some.inj (found.symm.trans here)
        exact ⟨handling, rfl⟩
    have running : ∃ object, server.invocations[place]? = some object ∧
        object.stage ≠ .finished := ⟨object, found, by simp [handling]⟩
    have committed : (server.callOperation place fun operation =>
        operation.complete "response ready").2 = decide (object.operation.state = .active) := by
      simp only [callOperation, found, object.operation.complete_eq]
      split <;> simp_all
    unfold handlerReturns
    cases encoded : (encodeMessage registry codec type value object.stream .response).frame with
    | none =>
      have unsent : object.replyFrame registry codec type value = none := by
        simp [Invocation.replyFrame, encoded]
      simp only [unsent] at outcome
      obtain ⟨rfl, -⟩ := Prod.mk.inj (Option.some.inj outcome)
      exact ⟨running, server.finishHandler_ended place bound⟩
    | some frame =>
      dsimp only
      rw [committed]
      simp only [Invocation.replyFrame, encoded, Option.map_some] at outcome
      split at outcome
      · rename_i active
        obtain ⟨result, answered, same⟩ := Option.map_eq_some_iff.mp outcome
        obtain ⟨rfl, -⟩ := Prod.mk.inj same
        rw [if_pos (by simpa using active)]
        refine ⟨running, ?_⟩
        rw [← server.callOperation_queue place fun operation =>
          operation.complete "response ready"] at answered
        exact afterOffer_ended _ place answered (by simpa using bound)
      · rename_i inactive
        obtain ⟨rfl, -⟩ := Prod.mk.inj (Option.some.inj outcome)
        rw [if_neg (by simpa using inactive)]
        refine ⟨running, ?_⟩
        apply finishHandler_ended
        simpa using bound
  | handlerThrows place =>
    obtain ⟨rfl, -⟩ := Prod.mk.inj (Option.some.inj ended)
    cases server.step_acts stepped (by simp) with
    | handlerThrows _ object found handling =>
      exact ⟨⟨object, found, by simp [handling]⟩,
        server.finishHandler_ended place (List.getElem?_eq_some_iff.mp found).1⟩
  | resumeEnqueue place =>
    simp only [ServerConnection.ending] at ended
    obtain ⟨frame, holds, rest⟩ := Option.bind_eq_some_iff.mp ended
    obtain ⟨⟨queue, answer⟩, resumed, answered⟩ := Option.bind_eq_some_iff.mp rest
    obtain ⟨result, rfl, outcome⟩ := Option.map_eq_some_iff.mp answered
    obtain ⟨rfl, -⟩ := Prod.mk.inj outcome
    cases server.step_acts stepped (by simp) with
    | resumeEnqueue _ other outcome again =>
      obtain ⟨rfl, rfl⟩ := Prod.mk.inj (Option.some.inj (resumed.symm.trans again))
      obtain ⟨object, found, responding, -⟩ := sound.held place frame holds
      exact ⟨⟨object, found, by simp [responding]⟩,
        server.afterOffer_ended place rfl (List.getElem?_eq_some_iff.mp found).1⟩
  | _ => simp [ServerConnection.ending] at ended

end Steps

section Dispatching

variable (frame : Frame)

/-- The error frames the queue takes for a frame that is refused at once. -/
def rejects : List Frame :=
  (server.refusal frame).elim [] fun status =>
    server.writeQueue.taken (makeErrorFrame frame.header.stream status)

/-- A request that is refused is answered with the status of its refusal, and no handler
starts. -/
theorem dispatch_refused {status : StatusCode} (refused : server.refusal frame = some status) :
    server.dispatch frame =
      (server.sendOperationError frame.header.stream status).markTerminal frame := by
  unfold refusal at refused
  unfold dispatch
  split at refused
  · rename_i draining
    rw [if_pos draining, Option.some.inj refused]
  · rename_i serving
    rw [if_neg serving]
    split at refused
    · simp at refused
    · rename_i fresh
      obtain ⟨request, unmarked, plain⟩ : frame.header.type = .request ∧
          frame.header.stream ∉ server.terminalStreams ∧
          hasFlag frame.header.flags .cancel = false := by
        simpa using fresh
      simp only [request, ne_eq, not_true, if_false, unmarked, plain, Bool.false_eq_true]
      cases peeked : peekMessageType frame.payload with
      | none =>
        simp only [peeked] at refused ⊢
        rw [Option.some.inj refused]
      | some messageType =>
        cases handled : server.handlers.lookup messageType with
        | none =>
          simp only [peeked, handled] at refused ⊢
          rw [Option.some.inj refused]
        | some handler => simp [peeked, handled] at refused

/-- A frame that is not refused leaves the queue alone. -/
theorem dispatch_accepts (accepted : server.refusal frame = none) :
    (server.dispatch frame).writeQueue = server.writeQueue := by
  unfold refusal at accepted
  unfold dispatch
  split at accepted
  · simp at accepted
  · rename_i serving
    rw [if_neg serving]
    split
    · simp
    · rename_i request
      split
      · simp
      · rename_i unmarked
        split
        · split
          · simp
          · simp
        · rename_i plain
          rw [if_neg (by simp [not_not.mp request, unmarked, plain])] at accepted
          cases peeked : peekMessageType frame.payload with
          | none => simp [peeked] at accepted
          | some messageType =>
            cases handled : server.handlers.lookup messageType with
            | none => simp [peeked, handled] at accepted
            | some handler =>
              simp only [handled]
              unfold spawnHandler
              split <;> rfl

/-- A refused frame leaves the coroutines alone. -/
theorem dispatchFrame_refused (rest : List Frame) {status : StatusCode}
    (refused : server.refusal frame = some status) :
    (server.dispatchFrame frame rest).invocations = server.invocations := by
  have routed := dispatch_refused (server.notify
    { type := .messageTransferred, stream := frame.header.stream, inbound := true }) frame refused
  have invocations := congrArg ServerConnection.invocations routed
  refine invocations.trans ?_
  unfold markTerminal
  split <;> rfl

/-- What dispatching a frame gives to the queue is the error it is rejected with, if it is. -/
theorem dispatchFrame_accepted (rest : List Frame) :
    (server.dispatchFrame frame rest).writeQueue.accepted =
      server.writeQueue.accepted ++ server.rejects frame := by
  cases refused : server.refusal frame with
  | none =>
    have routed := dispatch_accepts (server.notify
      { type := .messageTransferred, stream := frame.header.stream, inbound := true }) frame refused
    have accepted := congrArg WriteQueue.accepted routed
    simp only [rejects, refused, Option.elim_none, List.append_nil]
    exact accepted
  | some status =>
    have routed := dispatch_refused (server.notify
      { type := .messageTransferred, stream := frame.header.stream, inbound := true }) frame refused
    have told := sendOperationError_book (server.notify
      { type := .messageTransferred, stream := frame.header.stream, inbound := true })
      frame.header.stream status
    have accepted := congrArg (fun after : ServerConnection ν => after.writeQueue.accepted) routed
    simp only [markTerminal_queue] at accepted
    simp only [rejects, refused, Option.elim_some]
    exact accepted.trans (congrArg Book.accepted told)

/-- A frame is recorded as dispatched whatever becomes of it. -/
theorem dispatchFrame_dispatched (rest : List Frame) :
    (server.dispatchFrame frame rest).dispatched = server.dispatched ++ [frame] := by
  have routed : (dispatch (server.notify
      { type := .messageTransferred, stream := frame.header.stream, inbound := true })
        frame).dispatched = server.dispatched := by
    rcases dispatch_shell (server.notify
      { type := .messageTransferred, stream := frame.header.stream, inbound := true }) frame with
      same | ⟨violation, failed⟩ | severed
    · exact congrArg ConnectionShell.dispatched same
    · exact congrArg ConnectionShell.dispatched failed
    · exact congrArg ConnectionShell.dispatched severed
  exact congrArg (· ++ [frame]) routed

end Dispatching

section Kinds

variable [DecidableEq τ] (registry : MessageRegistry τ) (codec : Codec τ ν)

/-- The coroutines go on without coming to an end, and none is added. -/
structure Proceeds (after : ServerConnection ν) : Prop where
  length : after.invocations.length = server.invocations.length
  goes : ∀ (invocation : Nat) (object : Invocation ν),
    server.invocations[invocation]? = some object →
    ∃ new, after.invocations[invocation]? = some new ∧
      object.Goes server.writeQueue.accepted.length (fun _ => False) new

/-- What a step does that answers are about: a frame is dispatched, a coroutine
ends, or neither. -/
inductive Serves (event : ServerEvent ν) (after : ServerConnection ν) : Prop where
  | dispatched (frame : Frame) (rest : List Frame) (dispatches : event = .dispatchNext)
      (reading : server.reader = .dispatching (frame :: rest))
      (dispatched : after.dispatched = server.dispatched ++ [frame])
      (accepted : after.writeQueue.accepted =
        server.writeQueue.accepted ++ server.rejects frame)
      (goes : ∀ (invocation : Nat) (object : Invocation ν),
        server.invocations[invocation]? = some object →
        ∃ new, after.invocations[invocation]? = some new ∧
          object.Goes server.writeQueue.accepted.length (fun _ => False) new)
      (comes : ∀ (invocation : Nat) (new : Invocation ν),
        after.invocations[invocation]? = some new →
        (∃ object, server.invocations[invocation]? = some object) ∨
          server.refusal frame = none ∧ frame.isRequest = true ∧
          ∃ handler, new = Invocation.spawn frame handler server.dispatched.length)
  | ended (invocation : Nat) (ending : Ending) (object new : Invocation ν)
      (handles : event ≠ .dispatchNext)
      (ended : server.ending registry codec event = some (invocation, ending))
      (found : server.invocations[invocation]? = some object)
      (unfinished : object.stage ≠ .finished) (finished : new.stage = .finished)
      (goes : object.Goes server.writeQueue.accepted.length (· = ending) new)
      (invocations : after.invocations = server.invocations.set invocation new)
      (accepted : after.writeQueue.accepted = server.writeQueue.accepted ++ ending.offered)
      (dispatched : after.dispatched = server.dispatched)
  | proceeded (unread : event = .dispatchNext → server.reader.batch = [])
      (unended : server.ending registry codec event = none) (proceeds : server.Proceeds after)
      (accepted : after.writeQueue.accepted = server.writeQueue.accepted)
      (dispatched : after.dispatched = server.dispatched)

variable {registry codec}

/-- An event ends the coroutine that its ending names, and no other. -/
theorem brings_ends {event : ServerEvent ν} {invocation : Nat} {ending : Ending}
    (brought : server.Brings registry codec event (.ends invocation ending)) :
    server.ending registry codec event = some (invocation, ending) := by
  cases brought with
  | ends _ _ ended => exact ended

/-- A coroutine ends with a rejection only when it starts on a request that cannot be
decoded; the frames offered are what the queue takes of the error. -/
theorem ending_rejected {server : ServerConnection ν} {event : ServerEvent ν} {invocation : Nat}
    {offered : List Frame} {object : Invocation ν}
    (ended : server.ending registry codec event = some (invocation, .rejected offered))
    (found : server.invocations[invocation]? = some object) :
    event = .startHandler invocation ∧
      (decodeMessage registry codec object.handler.request object.frame).ok = false ∧
      offered = server.writeQueue.taken (makeErrorFrame object.stream
        (decodeMessage registry codec object.handler.request object.frame).status) := by
  cases event with
  | startHandler place =>
    simp only [ending] at ended
    obtain ⟨other, present, rejected⟩ := Option.bind_eq_some_iff.mp ended
    split at rejected
    · simp at rejected
    · rename_i failed
      obtain ⟨rfl, same⟩ := Prod.mk.inj (Option.some.inj rejected)
      obtain rfl : other = object := Option.some.inj (present.symm.trans found)
      exact ⟨rfl, by simpa using failed, (Ending.rejected.inj same).symm⟩
  | handlerReturns place type value =>
    simp only [ending] at ended
    obtain ⟨other, -, outcome⟩ := Option.bind_eq_some_iff.mp ended
    split at outcome
    · simp at outcome
    · split at outcome
      · obtain ⟨result, -, same⟩ := Option.map_eq_some_iff.mp outcome
        cases ok : result.ok <;> simp [ok] at same
      · simp at outcome
  | resumeEnqueue place =>
    simp only [ending] at ended
    obtain ⟨frame, -, rest⟩ := Option.bind_eq_some_iff.mp ended
    obtain ⟨outcome, -, answered⟩ := Option.bind_eq_some_iff.mp rest
    obtain ⟨result, -, same⟩ := Option.map_eq_some_iff.mp answered
    cases ok : result.ok <;> simp [ok] at same
  | _ => simp [ending] at ended

/-- Without an ending, a change of the book moves every coroutine on and ends none. -/
theorem unended_goes {event : ServerEvent ν} {draining : Prop} {before after : Book ν}
    (unended : server.ending registry codec event = none)
    (step : Book.Step registry codec draining (server.Brings registry codec event) before after)
    {invocation : Nat} {object : Invocation ν}
    (found : before.invocations[invocation]? = some object) :
    ∃ new, after.invocations[invocation]? = some new ∧
      object.Goes before.accepted.length (fun _ => False) new := by
  obtain ⟨new, present, goes⟩ := step.goes found
  refine ⟨new, present, goes.mono ?_⟩
  intro ending brought
  have ended := server.brings_ends brought
  rw [unended] at ended
  simp at ended

/-- A frame of the batch is dispatched. -/
theorem dispatch_serves (sound : server.book.Sound) (frame : Frame) (rest : List Frame)
    (reading : server.reader = .dispatching (frame :: rest)) :
    server.Serves registry codec .dispatchNext (server.dispatchFrame frame rest) := by
  have step : Book.Step registry codec (server.isShuttingDown = true)
      (server.Brings registry codec .dispatchNext) server.book
      (server.dispatchFrame frame rest).book := by
    apply server.dispatchFrame_book sound frame rest (.reads frame rest rfl reading)
    intro status refused
    exact .concludes _ _ (by simp [conclusion, reading, Reader.batch, refused])
  refine .dispatched frame rest rfl reading (server.dispatchFrame_dispatched frame rest)
    (server.dispatchFrame_accepted frame rest) ?_ ?_
  · intro invocation object found
    exact server.unended_goes rfl step found
  · intro invocation new found
    rcases step.comes found with ⟨object, present, -⟩ | ⟨other, handler, brought, request, plain, rfl⟩
    · exact Or.inl ⟨object, present⟩
    · cases refused : server.refusal frame with
      | some status =>
        rw [server.dispatchFrame_refused frame rest refused] at found
        exact Or.inl ⟨_, found⟩
      | none =>
        cases brought with
        | reads _ others _ again =>
          have same : frame = other ∧ rest = others := by simpa [reading] using again
          obtain ⟨rfl, rfl⟩ := same
          exact Or.inr ⟨rfl, by simp [Frame.isRequest, request, plain], handler, rfl⟩

/-- Every step of the connection is of one of these kinds. -/
theorem step_serves (sound : server.book.Sound) {event : ServerEvent ν}
    {after : ServerConnection ν} (stepped : server.step registry codec event = some after) :
    server.Serves registry codec event after := by
  by_cases dispatching : event = .dispatchNext ∧ server.reader.batch ≠ []
  · obtain ⟨dispatches, batch⟩ := dispatching
    subst dispatches
    cases server.step_advances stepped with
    | dispatches frame rest reading => exact server.dispatch_serves sound frame rest reading
    | leaves reading => simp [reading, Reader.batch] at batch
    | acts acts => cases acts
  · have unread : event = .dispatchNext → server.reader.batch = [] := by
      intro dispatches
      by_contra batch
      exact dispatching ⟨dispatches, batch⟩
    have book := server.step_book sound event after stepped
    cases ended : server.ending registry codec event with
    | some outcome =>
      obtain ⟨invocation, ending⟩ := outcome
      obtain ⟨⟨object, found, unfinished⟩, new, present, finished⟩ :=
        server.ending_ended sound stepped ended
      have handles : event ≠ .dispatchNext := by
        rintro rfl
        simp [ServerConnection.ending] at ended
      rcases book with same | step
      · have again : after.invocations = server.invocations := congrArg Book.invocations same
        rw [again, found] at present
        obtain rfl := Option.some.inj present
        exact absurd finished unfinished
      · have only : ∀ other, server.Brings registry codec event (.ends invocation other) →
            other = ending := by
          intro other brought
          have again := (server.brings_ends brought).symm.trans ended
          exact (Prod.mk.inj (Option.some.inj again)).2
        obtain ⟨other, brought, -, accepted, dispatched, invocations⟩ :=
          step.ends found unfinished present finished
        obtain rfl := only other brought
        obtain ⟨moved, there, goes⟩ := step.goes found
        obtain rfl : moved = new := Option.some.inj (there.symm.trans present)
        exact .ended invocation other object moved handles ended found unfinished finished
          (goes.mono only) invocations accepted dispatched
    | none =>
      rcases book with same | step
      · have invocations : after.invocations = server.invocations := congrArg Book.invocations same
        refine .proceeded unread ended ⟨by rw [invocations], ?_⟩ (congrArg Book.accepted same)
          (congrArg Book.dispatched same)
        intro invocation object found
        exact ⟨object, invocations ▸ found, .same⟩
      · have silent : ∀ frame, ¬ server.Brings registry codec event (.reads frame) := by
          intro frame brought
          cases brought with
          | reads _ rest dispatches reading =>
            have empty := unread dispatches
            simp [reading, Reader.batch] at empty
        obtain ⟨accepted, dispatched⟩ := step.quiet silent (by
          intro invocation ending brought
          have again := server.brings_ends brought
          rw [ended] at again
          simp at again)
        refine .proceeded unread ended ⟨?_, fun _ _ => server.unended_goes ended step⟩ accepted
          dispatched
        rcases step.grows with length | ⟨frame, handler, brought, -⟩
        · exact length
        · exact absurd brought (silent frame)

end Kinds

end ServerConnection

end Endings

end Rillnet
