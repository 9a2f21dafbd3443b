import Rillnet.ServerBook

/-!
# Runs of a server connection

Every event of a server connection changes its book by at most one of the changes
of `Book.Step`, so the agreement of coroutines, map and queue holds in every
reachable state.
-/

namespace Rillnet

section Runs

variable {τ : Type} {ν : τ → Type}

/-- Losing a connection twice is losing it once. -/
theorem Operation.lost_lost (operation : Operation StreamId) (activated : operation.state ≠ .created) :
    operation.lost.lost = operation.lost := by
  by_cases active : operation.state = .active
  · have lost := operation.lost_eq activated
    rw [if_pos active] at lost
    rw [lost, Operation.lost_eq _ (by simp)]
    simp
  · have lost := operation.lost_eq activated
    rw [if_neg active] at lost
    rw [lost, lost]

/-- The frames that one attempt to enqueue a frame puts into the queue. -/
def WriteQueue.taken (queue : WriteQueue) (frame : Frame) : List Frame :=
  if (queue.tryEnqueue frame).2.ok then [frame] else []

/-- An offer is taken or refused as a whole. -/
theorem WriteQueue.taken_kind (queue : WriteQueue) (frame : Frame) :
    queue.taken frame = [] ∨ queue.taken frame = [frame] := by
  unfold taken
  split
  · exact Or.inr rfl
  · exact Or.inl rfl

namespace Book

/-- The coroutines after some operations were lost. -/
structure Loses (before after : List (Invocation ν)) : Prop where
  length : after.length = before.length
  each : ∀ (invocation : Nat) (object : Invocation ν), before[invocation]? = some object →
    after[invocation]? = some object ∨
      after[invocation]? = some { object with operation := object.operation.lost }

/-- Losing nobody is a loss as well. -/
theorem Loses.refl (invocations : List (Invocation ν)) : Loses invocations invocations :=
  ⟨rfl, fun _ _ found => Or.inl found⟩

/-- One more operation is lost. -/
theorem Loses.set {before after : List (Invocation ν)} (loses : Loses before after)
    (activated : ∀ (invocation : Nat) (object : Invocation ν), before[invocation]? = some object →
      object.operation.state ≠ .created)
    {invocation : Nat} {object : Invocation ν} (found : after[invocation]? = some object) :
    Loses before (after.set invocation { object with operation := object.operation.lost }) := by
  refine ⟨by simp [loses.length], ?_⟩
  intro other old present
  rw [getElem?_set_found _ found]
  by_cases same : other = invocation
  · subst same
    rw [if_pos rfl]
    right
    rcases loses.each other old present with kept | lost
    · obtain rfl : object = old := Option.some.inj (found.symm.trans kept)
      rfl
    · obtain rfl : object = { old with operation := old.operation.lost } :=
        Option.some.inj (found.symm.trans lost)
      simp [old.operation.lost_lost (activated other old present)]
  · rw [if_neg same]
    exact loses.each other old present

/-- Only operations were lost. -/
def Loss (before after : Book ν) : Prop :=
  ∃ others, Loses before.invocations others ∧ after = { before with invocations := others }

/-- Losing nobody leaves the book as it is. -/
theorem Loss.refl (book : Book ν) : book.Loss book := ⟨book.invocations, Loses.refl _, rfl⟩

/-- A coroutine without a frame has none to give up. -/
theorem hold_none_self {book : Book ν} {invocation : Nat} (free : book.held invocation = none) :
    book.hold invocation none = book := by
  have same : Function.update book.held invocation none = book.held := by
    rw [← free]
    exact Function.update_eq_self invocation book.held
  simp [hold, same]

end Book

/-- The frame a handler's value is sent in, absent if it cannot be encoded. -/
def Invocation.replyFrame [DecidableEq τ] (registry : MessageRegistry τ) (codec : Codec τ ν)
    (object : Invocation ν) (type : τ) (value : ν type) : Option Frame :=
  (encodeMessage registry codec type value object.stream .response).frame.map fun frame =>
    { frame with header := { frame.header with flags := frame.header.flags ||| .endOfStream } }

namespace ServerConnection

variable (server : ServerConnection ν) {invocation : Nat} {object : Invocation ν}

/-- What a book does not see. -/
theorem book_eq (other : ServerConnection ν) (invocations : other.invocations = server.invocations)
    (operations : other.operations = server.operations)
    (terminalStreams : other.terminalStreams = server.terminalStreams)
    (dispatched : other.dispatched = server.dispatched)
    (kept : WriteQueue.Kept server.writeQueue other.writeQueue) : other.book = server.book := by
  simp [book, invocations, operations, terminalStreams, dispatched, kept.accepted, kept.held]

/-- Telling the observers leaves the book as it is. -/
@[simp] theorem notify_book (event : DiagnosticsEvent) : (server.notify event).book = server.book :=
  rfl

/-- A transition of the lifecycle leaves the book as it is. -/
@[simp] theorem transition_book (next : ConnectionState) :
    (server.transition next).book = server.book := rfl

/-- Reporting the end of the connection leaves the book as it is. -/
@[simp] theorem notifyClosed_book : server.notifyClosed.book = server.book := by
  unfold notifyClosed
  split <;> rfl

/-- Failing the connection leaves the book as it is: no operation is failed with it. -/
@[simp] theorem failConnection_book (status : StatusCode) (message : String) :
    (server.failConnection status message).book = server.book := by
  unfold failConnection
  dsimp only
  split <;> rfl

/-- Recording an ended stream marks it in the book. -/
@[simp] theorem markTerminal_book (frame : Frame) :
    (server.markTerminal frame).book = server.book.mark frame := by
  unfold markTerminal Book.mark
  split <;> rfl

/-- Closing an idle queue accepts nothing, so the book stays as it is. -/
@[simp] theorem closeQueueWhenIdle_book : server.closeQueueWhenIdle.book = server.book := by
  unfold closeQueueWhenIdle
  split
  · exact server.book_eq _ rfl rfl rfl rfl server.writeQueue.close_kept
  · rfl

/-- A method of an operation offers nothing. -/
@[simp] theorem callOperation_queue (invocation : Nat)
    (call : Operation StreamId → Operation StreamId × Bool) :
    (server.callOperation invocation call).1.writeQueue = server.writeQueue := by
  unfold callOperation
  split <;> rfl

/-- A method of an operation writes the one invocation it belongs to. -/
theorem callOperation_book (call : Operation StreamId → Operation StreamId × Bool)
    (found : server.invocations[invocation]? = some object) :
    (server.callOperation invocation call).1.book =
      server.book.update invocation { object with operation := (call object.operation).1 } := by
  simp [callOperation, found, book, Book.update]

/-- An error frame is accepted if the queue takes it, and forgotten otherwise. -/
theorem sendOperationError_book (stream : StreamId) (status : StatusCode) :
    (server.sendOperationError stream status).book =
      server.book.accept (server.writeQueue.taken (makeErrorFrame stream status)) := by
  rcases server.writeQueue.tryEnqueueFrame_effect (makeErrorFrame stream status) with
    ⟨success, accepted, -, producers⟩ | ⟨failed, same⟩
  · have held : (server.writeQueue.tryEnqueueFrame (makeErrorFrame stream status)).1.held =
        server.writeQueue.held := by
      unfold WriteQueue.held
      rw [producers]
    simp [sendOperationError, WriteQueue.tryEnqueue, WriteQueue.taken, success, WriteResult.ok,
      WriteResult.success, book, Book.accept, accepted, held]
  · simp [sendOperationError, WriteQueue.tryEnqueue, WriteQueue.taken, failed, book, Book.accept, same]

/-- A handler that ends strikes its operation from the book. -/
theorem finishHandler_book (found : server.invocations[invocation]? = some object) :
    (server.finishHandler invocation).book = server.book.finish invocation object := by
  unfold finishHandler
  rw [found]
  dsimp only
  rw [closeQueueWhenIdle_book]
  simp [book, Book.finish, modifyInvocation, modify_found _ found]

/-- One iteration of the loop over the operations of a lost connection. -/
theorem failOperation_book (found : server.invocations[invocation]? = some object) :
    ((server.callOperation invocation Operation.requestCancellation).1.callOperation invocation
      fun operation => operation.fail .connectionClosed
        "connection closed while processing a request").1.book =
      server.book.update invocation { object with operation := object.operation.lost } := by
  have first := server.callOperation_book Operation.requestCancellation found
  have refound : (server.callOperation invocation
      Operation.requestCancellation).1.invocations[invocation]? = some { object with
        operation := object.operation.requestCancellation.1 } := by
    have invocations := congrArg Book.invocations first
    exact (congrArg (·[invocation]?) invocations).trans
      ((getElem?_set_found _ found invocation).trans (if_pos rfl))
  rw [callOperation_book _ _ refound, first]
  simp [Book.update, Operation.lost]

/-- An entry without an invocation has no operation to fail. -/
theorem failOperation_absent (absent : server.invocations[invocation]? = none) :
    ((server.callOperation invocation Operation.requestCancellation).1.callOperation invocation
      fun operation => operation.fail .connectionClosed
        "connection closed while processing a request").1 = server := by
  simp [callOperation, absent]

section Losing

variable (start : List (Invocation ν))
variable (activated : ∀ (invocation : Nat) (object : Invocation ν),
  start[invocation]? = some object → object.operation.state ≠ .created)
include activated

/-- The loop over the operations of a lost connection. -/
theorem failOperations_loses (entries : List (Sigma fun _ : StreamId => Nat))
    (server : ServerConnection ν) (loses : Book.Loses start server.invocations) :
    ∃ others, Book.Loses start others ∧
      (entries.foldl (fun server entry =>
        ((server.callOperation entry.2 Operation.requestCancellation).1.callOperation entry.2
          fun operation => operation.fail .connectionClosed
            "connection closed while processing a request").1) server).book =
        { server.book with invocations := others } := by
  induction entries generalizing server with
  | nil => exact ⟨server.invocations, loses, rfl⟩
  | cons entry rest inductionHypothesis =>
    rw [List.foldl_cons]
    cases found : server.invocations[entry.2]? with
    | none =>
      rw [server.failOperation_absent found]
      exact inductionHypothesis server loses
    | some object =>
      have both := server.failOperation_book found
      have fewer : Book.Loses start ((server.callOperation entry.2
          Operation.requestCancellation).1.callOperation entry.2 fun operation =>
            operation.fail .connectionClosed
              "connection closed while processing a request").1.book.invocations := by
        rw [both]
        exact loses.set activated found
      obtain ⟨others, lost, book_eq⟩ := inductionHypothesis _ fewer
      refine ⟨others, lost, book_eq.trans ?_⟩
      rw [both]
      rfl

/-- The loop loses every operation it visits. -/
theorem failOperations_lost {place : Nat} {old : Invocation ν} (present : start[place]? = some old)
    (entries : List (Sigma fun _ : StreamId => Nat)) (server : ServerConnection ν)
    (loses : Book.Loses start server.invocations)
    (visited : (∃ entry ∈ entries, entry.2 = place) ∨
      server.invocations[place]? = some { old with operation := old.operation.lost }) :
    (entries.foldl (fun server entry =>
      ((server.callOperation entry.2 Operation.requestCancellation).1.callOperation entry.2
        fun operation => operation.fail .connectionClosed
          "connection closed while processing a request").1) server).invocations[place]? =
      some { old with operation := old.operation.lost } := by
  induction entries generalizing server with
  | nil => simpa using visited
  | cons entry rest inductionHypothesis =>
    rw [List.foldl_cons]
    cases found : server.invocations[entry.2]? with
    | none =>
      rw [server.failOperation_absent found]
      apply inductionHypothesis server loses
      rcases visited with ⟨visit, member, rfl⟩ | already
      · rcases List.mem_cons.mp member with rfl | later
        · rcases loses.each visit.2 old present with kept | lost
          · simp [found] at kept
          · simp [found] at lost
        · exact Or.inl ⟨visit, later, rfl⟩
      · exact Or.inr already
    | some object =>
      have both := congrArg Book.invocations (server.failOperation_book found)
      change _ = server.invocations.set entry.2 _ at both
      have fewer := loses.set activated found
      rw [← both] at fewer
      apply inductionHypothesis _ fewer
      by_cases here : entry.2 = place
      · subst here
        right
        refine (congrArg (·[entry.2]?) both).trans ?_
        rw [getElem?_set_found _ found, if_pos rfl]
        rcases loses.each entry.2 old present with kept | lost
        · obtain rfl : object = old := Option.some.inj (found.symm.trans kept)
          rfl
        · obtain rfl : object = { old with operation := old.operation.lost } :=
            Option.some.inj (found.symm.trans lost)
          simp [old.operation.lost_lost (activated entry.2 old present)]
      · rcases visited with ⟨visit, member, rfl⟩ | already
        · rcases List.mem_cons.mp member with rfl | later
          · exact absurd rfl here
          · exact Or.inl ⟨visit, later, rfl⟩
        · right
          refine (congrArg (·[place]?) both).trans ?_
          rw [getElem?_set_found _ found, if_neg (Ne.symm here)]
          exact already

end Losing

/-- The status of the error a frame is answered with at once, if it is. -/
def refusal (frame : Frame) : Option StatusCode :=
  if server.isShuttingDown then some .connectionClosed
  else if frame.header.type ≠ .request ∨ frame.header.stream ∈ server.terminalStreams ∨
      hasFlag frame.header.flags .cancel then none
  else
    match peekMessageType frame.payload with
    | none => some .decodeError
    | some messageType =>
      match server.handlers.lookup messageType with
      | none => some .unknownMessageType
      | some _ => none

section Conclusions

variable [DecidableEq τ] (registry : MessageRegistry τ) (codec : Codec τ ν)

/-- The handler coroutine an event brings to its end, and how. A response that has
to wait for space ends nothing yet. -/
def ending : ServerEvent ν → Option (Nat × Ending)
  | .startHandler invocation =>
    server.invocations[invocation]?.bind fun object =>
      let request := decodeMessage registry codec object.handler.request object.frame
      if request.ok then none
      else some (invocation, .rejected
        (server.writeQueue.taken (makeErrorFrame object.stream request.status)))
  | .handlerReturns invocation type value =>
    server.invocations[invocation]?.bind fun object =>
      match object.replyFrame registry codec type value with
      | none => some (invocation, .silent)
      | some frame =>
        if object.operation.state = .active then
          (server.writeQueue.enqueue invocation frame).2.map fun result =>
            (invocation, if result.ok then .replied frame else .refused)
        else some (invocation, .silent)
  | .handlerThrows invocation => some (invocation, .silent)
  | .resumeEnqueue invocation =>
    (server.writeQueue.held invocation).bind fun frame =>
      (server.writeQueue.resumeEnqueue invocation).bind fun outcome => outcome.2.map fun result =>
        (invocation, if result.ok then .replied frame else .refused)
  | _ => none

/-- The stream whose work an event brings to its end, with the frames the event
gives to the queue. -/
def conclusion : ServerEvent ν → Option (StreamId × List Frame)
  | .dispatchNext =>
    server.reader.batch.head?.bind fun frame => (server.refusal frame).map fun status =>
      (frame.header.stream, server.writeQueue.taken (makeErrorFrame frame.header.stream status))
  | event =>
    (server.ending registry codec event).bind fun (invocation, ending) =>
      server.invocations[invocation]?.map fun object => (object.stream, ending.offered)

/-- The deeds an event brings about. -/
inductive Brings (event : ServerEvent ν) : Deed → Prop where
  | reads (frame : Frame) (rest : List Frame) (dispatches : event = .dispatchNext)
      (reading : server.reader = .dispatching (frame :: rest)) : Brings event (.reads frame)
  | concludes (stream : StreamId) (offered : List Frame)
      (concluded : server.conclusion registry codec event = some (stream, offered)) :
      Brings event (.concludes stream offered)
  | waits (invocation : Nat) (object : Invocation ν) (type : τ) (value : ν type) (frame : Frame)
      (returns : event = .handlerReturns invocation type value)
      (found : server.invocations[invocation]? = some object)
      (sends : object.replyFrame registry codec type value = some frame) :
      Brings event (.waits invocation frame)
  | ends (invocation : Nat) (ending : Ending)
      (ended : server.ending registry codec event = some (invocation, ending)) :
      Brings event (.ends invocation ending)

/-- The deeds of an event that ends a coroutine. -/
theorem ends_brings {event : ServerEvent ν} (handles : event ≠ .dispatchNext)
    (found : server.invocations[invocation]? = some object) (ending : Ending)
    (ended : server.ending registry codec event = some (invocation, ending)) :
    server.Brings registry codec event (.concludes object.stream ending.offered) ∧
      server.Brings registry codec event (.ends invocation ending) := by
  refine ⟨.concludes _ _ ?_, .ends invocation ending ended⟩
  cases event with
  | dispatchNext => exact absurd rfl handles
  | _ => simp [conclusion, ended, found]

end Conclusions

variable (sound : server.book.Sound)
include sound

/-- Losing the connection fails the active operations, and does nothing else to the book. -/
theorem failOperationsOnConnectionClose_book :
    server.book.Loss server.failOperationsOnConnectionClose.book :=
  failOperations_loses server.invocations
    (fun invocation object found => (sound.operation invocation object found).2.2) _ server
    (Book.Loses.refl _)

/-- Only a responding coroutine is suspended in the queue. -/
theorem held_none (found : server.invocations[invocation]? = some object)
    (silent : object.stage ≠ .responding) : server.book.held invocation = none := by
  cases holds : server.book.held invocation with
  | none => rfl
  | some kept => exact absurd rfl (sound.unheld found silent invocation kept holds)

section Changes

variable [DecidableEq τ] {registry : MessageRegistry τ} {codec : Codec τ ν} {draining : Prop}
variable {permits : Deed → Prop}

open Book (Step)

/-- Routing one frame. -/
theorem dispatchFrame_book (frame : Frame) (rest : List Frame) (permitted : permits (.reads frame))
    (concludes : ∀ status, server.refusal frame = some status →
      permits (.concludes frame.header.stream
        (server.writeQueue.taken (makeErrorFrame frame.header.stream status)))) :
    Step registry codec (server.isShuttingDown = true) permits server.book
      (server.dispatchFrame frame rest).book := by
  have after : (server.dispatchFrame frame rest).book = ((server.notify
      { type := .messageTransferred, stream := frame.header.stream, inbound := true }).dispatch
        frame).book.seen frame := rfl
  rw [after]
  generalize noted : server.notify
    { type := .messageTransferred, stream := frame.header.stream, inbound := true } = current
  have same : current.book = server.book := by
    rw [← noted]
    rfl
  have draining : current.isShuttingDown = server.isShuttingDown := by
    rw [← noted]
    rfl
  have concludes : ∀ status, current.refusal frame = some status →
      permits (.concludes frame.header.stream
        (current.writeQueue.taken (makeErrorFrame frame.header.stream status))) := by
    rw [← noted]
    exact concludes
  have sound : current.book.Sound := same ▸ sound
  rw [← same, ← draining]
  unfold dispatch
  split
  · rename_i drains
    rw [markTerminal_book, sendOperationError_book]
    exact .answered frame .connectionClosed _ permitted (.draining drains)
      (current.writeQueue.taken_kind _) (concludes _ (by simp [refusal, drains]))
  · rename_i serving
    split
    · rename_i other
      rw [failConnection_book]
      exact .accused frame permitted (Or.inl other) serving
    · rename_i request
      have request : frame.header.type = .request := not_not.mp request
      split
      · rename_i marked
        rw [failConnection_book]
        exact .accused frame permitted (Or.inr (Or.inl marked)) serving
      · rename_i unmarked
        split
        · rename_i cancels
          split
          · rename_i invocation entry
            obtain ⟨object, found, -⟩ := sound.entry _ invocation entry
            rw [markTerminal_book, current.callOperation_book _ found]
            exact .cancelled frame invocation object permitted request found entry cancels unmarked
              serving
          · rename_i absent
            rw [failConnection_book]
            exact .accused frame permitted (Or.inr (Or.inr (Or.inl ⟨cancels, absent⟩))) serving
        · rename_i plain
          have plain : hasFlag frame.header.flags .cancel = false := Bool.eq_false_iff.mpr plain
          split
          · rename_i unreadable
            rw [markTerminal_book, sendOperationError_book]
            exact .answered frame .decodeError _ permitted (.unreadable request plain serving)
              (current.writeQueue.taken_kind _)
              (concludes _ (by simp [refusal, serving, request, unmarked, plain, unreadable]))
          · rename_i messageType readable
            split
            · rename_i unhandled
              rw [markTerminal_book, sendOperationError_book]
              exact .answered frame .unknownMessageType _ permitted
                (.unhandled request plain serving) (current.writeQueue.taken_kind _)
                (concludes _ (by
                  simp [refusal, serving, request, unmarked, plain, readable, unhandled]))
            · rename_i handler _
              unfold spawnHandler
              split
              · rename_i taken
                exact .accused frame permitted (Or.inr (Or.inr (Or.inr ⟨plain, taken⟩))) serving
              · rename_i free
                have free : current.operations.lookup frame.header.stream = none := by
                  simpa using free
                exact .spawned frame handler permitted request plain unmarked free serving

omit sound in
/-- A handler coroutine starts. -/
theorem startHandler_book
    (permitted : ∀ ending, server.ending registry codec (.startHandler invocation) =
      some (invocation, ending) →
      permits (.concludes object.stream ending.offered) ∧ permits (.ends invocation ending))
    (found : server.invocations[invocation]? = some object) (spawned : object.stage = .spawned) :
    Step registry codec draining permits server.book
      (server.startHandler registry codec invocation object).book := by
  unfold startHandler
  dsimp only
  split
  · rename_i decoded
    exact .started invocation object _ found spawned decoded
  · rename_i failed
    have failure : (decodeMessage registry codec object.handler.request object.frame).status ≠
        .ok := by
      simpa [DecodeResult.ok] using failed
    obtain ⟨concludes, ends⟩ := permitted (.rejected (server.writeQueue.taken
      (makeErrorFrame object.stream
        (decodeMessage registry codec object.handler.request object.frame).status)))
      (by simp [ending, found, failed])
    have called := server.callOperation_book (fun operation => operation.fail
      (decodeMessage registry codec object.handler.request object.frame).status
      (decodeMessage registry codec object.handler.request object.frame).message) found
    have queue := server.callOperation_queue invocation (fun operation => operation.fail
      (decodeMessage registry codec object.handler.request object.frame).status
      (decodeMessage registry codec object.handler.request object.frame).message)
    generalize (server.callOperation invocation fun operation => operation.fail
      (decodeMessage registry codec object.handler.request object.frame).status
      (decodeMessage registry codec object.handler.request object.frame).message).1 = current
      at called queue
    have told := current.sendOperationError_book object.stream
      (decodeMessage registry codec object.handler.request object.frame).status
    rw [queue] at told
    have refound : (current.sendOperationError object.stream
        (decodeMessage registry codec object.handler.request
          object.frame).status).book.invocations[invocation]? = some { object with
            operation := (object.operation.fail
              (decodeMessage registry codec object.handler.request object.frame).status
              (decodeMessage registry codec object.handler.request object.frame).message).1 } := by
      rw [told, called]
      exact (getElem?_set_found _ found invocation).trans (if_pos rfl)
    rw [finishHandler_book _ refound, told, called]
    have step : Step registry codec draining permits server.book _ :=
      .undecodable invocation object
        (decodeMessage registry codec object.handler.request object.frame).status
        (decodeMessage registry codec object.handler.request object.frame).message _ concludes
        ends found spawned rfl failure (server.writeQueue.taken_kind _)
    simpa [Book.finish, Book.accept, Book.update, Invocation.stream, Ending.offered] using step

omit [DecidableEq τ] sound in
/-- The end of a coroutine whose response was taken or refused. -/
theorem afterOffer_some (queue : WriteQueue) (result : WriteResult)
    (found : server.invocations[invocation]? = some object) :
    (server.afterOffer invocation (queue, some result)).book =
      ({ server.book with accepted := queue.accepted, held := queue.held } : Book ν).finish
        invocation { object with
          reply := if result.ok then some (queue.accepted.length - 1) else object.reply } := by
  have refound : (({ server with writeQueue := queue } : ServerConnection ν).modifyInvocation
      invocation fun object => { object with
        reply := if result.ok then some (queue.accepted.length - 1)
          else object.reply }).invocations[invocation]? = some { object with
        reply := if result.ok then some (queue.accepted.length - 1) else object.reply } := by
    simp [modifyInvocation, found]
  unfold afterOffer
  dsimp only
  rw [finishHandler_book _ refound]
  simp [book, Book.finish, modifyInvocation, modify_found _ found]

omit [DecidableEq τ] sound in
/-- A coroutine stays suspended with its response. -/
theorem afterOffer_none (queue : WriteQueue)
    (found : server.invocations[invocation]? = some object) :
    (server.afterOffer invocation (queue, none)).book =
      ({ server.book with accepted := queue.accepted, held := queue.held } : Book ν).update
        invocation { object with stage := .responding } := by
  simp [afterOffer, book, Book.update, modifyInvocation, modify_found _ found]

omit sound in
/-- A handler coroutine ends without a word. -/
theorem finishHandler_dropped
    (permitted : permits (.concludes object.stream []) ∧ permits (.ends invocation .silent))
    (found : server.invocations[invocation]? = some object) (handling : object.stage = .handling) :
    Step registry codec draining permits server.book (server.finishHandler invocation).book := by
  rw [server.finishHandler_book found]
  exact .dropped invocation object permitted.1 permitted.2 found handling

omit sound in
/-- The frame of a response ends its stream. -/
theorem replyFrame_framed {type : τ} {value : ν type} {reply : Frame}
    (sends : object.replyFrame registry codec type value = some reply) :
    ReplyFrame reply object.stream := by
  obtain ⟨frame, encoded, rfl⟩ := Option.map_eq_some_iff.mp sends
  obtain ⟨version, kind, flags, stream, declared, within⟩ :=
    encodeMessage_frame registry codec type value object.stream .response .none frame encoded
  exact ⟨version, kind, congrArg (· ||| .endOfStream) flags, stream, declared, within⟩

/-- The response of a handler that completed its operation is offered to the queue. -/
theorem answered_offer_book {current : ServerConnection ν} {reply : Frame}
    (called : current.book = server.book.update invocation
      { object with operation := object.operation.answered })
    (found : server.invocations[invocation]? = some object) (handling : object.stage = .handling)
    (active : object.operation.state = .active) (framed : ReplyFrame reply object.stream)
    (concluded : ∀ result, (current.writeQueue.enqueue invocation reply).2 = some result →
      permits (.concludes object.stream
        (if result.ok then Ending.replied reply else Ending.refused).offered) ∧
      permits (.ends invocation (if result.ok then .replied reply else .refused)))
    (waits : permits (.waits invocation reply)) :
    Step registry codec draining permits server.book
      (current.afterOffer invocation (current.writeQueue.enqueue invocation reply)).book := by
  have free := server.held_none sound found (by simp [handling])
  have refound : current.book.invocations[invocation]? = some { object with
      operation := object.operation.answered } := by
    rw [called]
    exact (getElem?_set_found _ found invocation).trans (if_pos rfl)
  have accepted_eq : current.writeQueue.accepted = server.book.accepted :=
    congrArg Book.accepted called
  have held_eq : current.writeQueue.held = server.book.held := congrArg Book.held called
  have offered := current.writeQueue.enqueue_effect invocation reply
  generalize current.writeQueue.enqueue invocation reply = outcome at offered concluded
  obtain ⟨queue, result⟩ := outcome
  cases offered with
  | accepted history written held =>
    dsimp only at history held
    have step : Step registry codec draining permits server.book _ :=
      .replied invocation object object.operation.answered reply (concluded .success rfl).1
        (concluded .success rfl).2 found (Or.inl ⟨handling, active, rfl⟩) framed
    rw [Book.hold_none_self free] at step
    rw [current.afterOffer_some queue .success refound, called]
    simpa [Book.finish, Book.accept, Book.update, Invocation.stream, WriteResult.ok,
      WriteResult.success, history, held, accepted_eq, held_eq] using step
  | refused result failed same =>
    dsimp only at same
    have silent := concluded result rfl
    simp only [failed, Bool.false_eq_true, if_false] at silent
    have step : Step registry codec draining permits server.book _ :=
      .refused invocation object object.operation.answered silent.1 silent.2 found
        (Or.inl ⟨handling, active, rfl⟩)
    rw [Book.hold_none_self free] at step
    rw [current.afterOffer_some queue result refound, called]
    simpa [Book.finish, Book.update, Invocation.stream, failed, same, accepted_eq, held_eq]
      using step
  | suspended history written held =>
    dsimp only at history held
    have step : Step registry codec draining permits server.book _ :=
      .suspended invocation object reply waits found handling active framed
    rw [current.afterOffer_none queue refound, called]
    simpa [Book.hold, Book.update, history, held, accepted_eq, held_eq] using step

/-- The application's handler returned. -/
theorem handlerReturns_book (type : τ) (value : ν type)
    (permitted : ∀ ending, server.ending registry codec (.handlerReturns invocation type value) =
      some (invocation, ending) →
      permits (.concludes object.stream ending.offered) ∧ permits (.ends invocation ending))
    (waits : ∀ frame, object.replyFrame registry codec type value = some frame →
      permits (.waits invocation frame))
    (found : server.invocations[invocation]? = some object) (handling : object.stage = .handling) :
    Step registry codec draining permits server.book
      (server.handlerReturns registry codec invocation object type value).book := by
  unfold handlerReturns
  cases encoded : (encodeMessage registry codec type value object.stream .response).frame with
  | none =>
    have unsent : object.replyFrame registry codec type value = none := by
      simp [Invocation.replyFrame, encoded]
    exact server.finishHandler_dropped (permitted .silent (by simp [ending, found, unsent])) found
      handling
  | some frame =>
    generalize reply_eq : ({ frame with
      header := { frame.header with flags := frame.header.flags ||| .endOfStream } } : Frame) = reply
    have sends : object.replyFrame registry codec type value = some reply := by
      simp [Invocation.replyFrame, encoded, reply_eq]
    have called := server.callOperation_book (fun operation => operation.complete "response ready")
      found
    have same_queue := server.callOperation_queue invocation
      (fun operation => operation.complete "response ready")
    have committed : (server.callOperation invocation fun operation =>
        operation.complete "response ready").2 =
          (object.operation.complete "response ready").2 := by
      simp [callOperation, found]
    have complete := object.operation.complete_eq "response ready"
    dsimp only
    rw [reply_eq]
    by_cases active : object.operation.state = .active
    · rw [if_pos active] at complete
      rw [complete] at committed called
      rw [if_pos committed]
      apply server.answered_offer_book sound called found handling active (replyFrame_framed sends) ?_
        (waits reply sends)
      intro result ended
      rw [same_queue] at ended
      exact permitted _ (by simp [ending, found, sends, active, ended])
    · rw [if_neg active] at complete
      rw [complete] at committed called
      rw [if_neg (by simp [committed])]
      have same : (server.callOperation invocation fun operation =>
          operation.complete "response ready").1.book = server.book := by
        have invocations : server.book.invocations.set invocation object =
            server.book.invocations := set_found found
        rw [called]
        simp [Book.update, invocations]
      generalize (server.callOperation invocation fun operation =>
        operation.complete "response ready").1 = current at same
      rw [← same]
      exact current.finishHandler_dropped
        (permitted .silent (by simp [ending, found, sends, active]))
        ((congrArg (fun book : Book ν => book.invocations[invocation]?) same).trans found) handling

/-- A suspended response is offered again. -/
theorem resumeEnqueue_book
    (permitted : ∀ object ending, server.invocations[invocation]? = some object →
      server.ending registry codec (.resumeEnqueue invocation) = some (invocation, ending) →
      permits (.concludes object.stream ending.offered) ∧ permits (.ends invocation ending))
    {queue : WriteQueue}
    {result : Option WriteResult}
    (resumed : server.writeQueue.resumeEnqueue invocation = some (queue, result)) :
    (server.afterOffer invocation (queue, result)).book = server.book ∨
      Step registry codec draining permits server.book
        (server.afterOffer invocation (queue, result)).book := by
  obtain ⟨frame, holds, offered⟩ :=
    server.writeQueue.resumeEnqueue_effect invocation queue result resumed
  obtain ⟨object, found, responding, framed⟩ := sound.held invocation frame holds
  have present : server.invocations[invocation]? = some object := found
  have keeps : server.writeQueue.held invocation = some frame := holds
  have left := server.writeQueue.leave_held invocation
  cases offered with
  | accepted history written held =>
    right
    obtain ⟨concludes, ends⟩ := permitted object (.replied frame) present (by
      simp [ending, resumed, keeps, WriteResult.ok, WriteResult.success])
    have step : Step registry codec draining permits server.book _ :=
      .replied invocation object object.operation frame concludes ends found
        (Or.inr ⟨responding, holds, rfl⟩) framed
    rw [server.afterOffer_some queue .success found]
    rw [left] at held
    have history : queue.accepted = server.writeQueue.accepted ++ [frame] := history
    simpa [Book.finish, Book.accept, Book.hold, Invocation.stream, WriteResult.ok,
      WriteResult.success, history, held, book] using step
  | refused result failed same =>
    right
    obtain ⟨concludes, ends⟩ := permitted object .refused present (by
      simp [ending, resumed, keeps, failed])
    have step : Step registry codec draining permits server.book _ :=
      .refused invocation object object.operation concludes ends found
        (Or.inr ⟨responding, rfl⟩)
    rw [server.afterOffer_some queue result found]
    have accepted : queue.accepted = server.writeQueue.accepted := by
      rw [same]
      rfl
    rw [← same] at left
    simpa [Book.finish, Book.hold, Invocation.stream, failed, accepted, left, book] using step
  | suspended history written held =>
    left
    rw [server.afterOffer_none queue found]
    rw [left] at held
    have history : queue.accepted = server.writeQueue.accepted := history
    have unchanged : ({ object with stage := .responding } : Invocation ν) = object := by
      rw [← responding]
    have kept : Function.update server.writeQueue.held invocation (some frame) =
        server.writeQueue.held := by
      rw [← holds]
      exact Function.update_eq_self invocation server.writeQueue.held
    have invocations : server.invocations.set invocation object = server.invocations :=
      set_found found
    simp [Book.update, book, history, held, unchanged, kept, invocations]

omit [DecidableEq τ] in
/-- The end of the read loop loses the operations or leaves them alone. -/
theorem finishReading_book (lost : Bool) :
    server.book.Loss (server.finishReading lost).book := by
  have after : (server.finishReading lost).book =
      (if lost then server.failOperationsOnConnectionClose else server).book := by
    rw [finishReading, notifyClosed_book, transition_book, closeQueueWhenIdle_book]
    rfl
  rw [after]
  cases lost with
  | true => exact server.failOperationsOnConnectionClose_book sound
  | false => exact Book.Loss.refl _

omit [DecidableEq τ] in
/-- The reader waits, or ends. -/
theorem continueReading_book :
    server.book.Loss server.continueReading.book := by
  unfold continueReading
  split
  · exact Book.Loss.refl _
  · exact server.finishReading_book sound false

omit [DecidableEq τ] in
/-- After the last frame of a read at most the operations of a lost connection are failed. -/
theorem endBatch_book :
    server.book.Loss server.endBatch.book := by
  unfold endBatch
  split
  · rename_i error _
    exact finishReading_book ({ server with
      transportOpen := false
      diagnostics := server.diagnostics ++ [{
        type := .protocolError, status := statusForFrameValidation error, inbound := true,
        message := frameValidationMessage error }]
      violations := server.violations ++
        [(statusForFrameValidation error, frameValidationMessage error)] } : ServerConnection ν)
      sound false
  · exact server.continueReading_book sound

omit [DecidableEq τ] in
/-- The end of `shutdown` fails the operations that are left. -/
theorem finishShutdown_book :
    server.book.Loss server.finishShutdown.book := by
  have after : server.finishShutdown.book =
      (if server.activeHandlers = 0 then server
        else server.failOperationsOnConnectionClose).book := by
    rw [finishShutdown, notifyClosed_book, transition_book]
    rfl
  rw [after]
  split
  · exact Book.Loss.refl _
  · exact server.failOperationsOnConnectionClose_book sound

omit [DecidableEq τ] in
/-- A poll of the waiting loop fails the operations that are left, or none. -/
theorem drain_book (expired : Bool) :
    server.book.Loss (server.drain expired).book := by
  unfold drain
  split
  · exact server.finishShutdown_book sound
  · exact Book.Loss.refl _

omit [DecidableEq τ] sound in
/-- Beginning to drain leaves the book as it is. -/
theorem beginShutdown_book : server.beginShutdown.book = server.book := by
  unfold beginShutdown
  dsimp only
  split <;> split <;> rfl

omit sound in
/-- Losing operations is a change of the book. -/
theorem lost_step {after : ServerConnection ν}
    (lost : server.book.Loss after.book) :
    Step registry codec draining permits server.book after.book := by
  obtain ⟨others, loses, book_eq⟩ := lost
  rw [book_eq]
  exact .lost others loses.length loses.each

/-- Every event other than the loop over frames changes the book at most once. -/
theorem act_book (event : ServerEvent ν) (after : ServerConnection ν)
    (acts : server.Acts registry codec event after) :
    after.book = server.book ∨
      Step registry codec draining (server.Brings registry codec event) server.book after.book := by
  cases acts with
  | handle request response =>
    left
    unfold handle
    split <;> rfl
  | run =>
    left
    unfold run
    dsimp only
    split <;> rfl
  | startWriter queue started =>
    exact Or.inl (server.book_eq _ rfl rfl rfl rfl (server.writeQueue.run_effect queue started).1)
  | startReader => exact Or.inr (server.lost_step (server.continueReading_book sound))
  | received bytes => exact Or.inl rfl
  | endOfFile closes =>
    have lost := ({ server with
      transportOpen := server.transportOpen && !closes } : ServerConnection ν).finishReading_book
        sound (!(server.transportOpen && !closes))
    exact Or.inr (server.lost_step lost)
  | readFailed closes =>
    have lost := ({ server with
      transportOpen := server.transportOpen && !closes } : ServerConnection ν).finishReading_book
        sound true
    exact Or.inr (server.lost_step lost)
  | startHandler invocation object found spawned =>
    exact Or.inr (server.startHandler_book
      (server.ends_brings registry codec (by simp) found) found spawned)
  | handlerReturns invocation type value object found handling =>
    exact Or.inr (server.handlerReturns_book sound type value
      (server.ends_brings registry codec (by simp) found)
      (fun frame => .waits invocation object type value frame rfl found) found handling)
  | handlerThrows invocation object found handling =>
    exact Or.inr (server.finishHandler_dropped
      (server.ends_brings registry codec (by simp) found .silent rfl) found handling)
  | resumeEnqueue invocation queue result resumed =>
    exact server.resumeEnqueue_book sound
      (fun _ ending found => server.ends_brings registry codec (by simp) found ending) resumed
  | abortEnqueue invocation message queue aborted =>
    exact Or.inl (server.book_eq _ rfl rfl rfl rfl
      (server.writeQueue.abortEnqueue_kept invocation message queue aborted).1)
  | shutdown expired =>
    have begun := ({ server with shutdownEntered := true } : ServerConnection ν).beginShutdown_book
    have same : ({ server with
        shutdownEntered := true } : ServerConnection ν).beginShutdown.book = server.book := begun
    have lost := drain_book _ (same ▸ sound) expired
    rw [same] at lost
    exact Or.inr (server.lost_step lost)
  | drainTick expired aborted =>
    right
    unfold drainTick
    dsimp only
    split
    · have lost := ({ server with
        drains := server.drains - 1 } : ServerConnection ν).finishShutdown_book sound
      exact server.lost_step lost
    · have lost := ({ server with
        drains := server.drains - 1 } : ServerConnection ν).drain_book sound expired
      exact server.lost_step lost
  | resumeWriter queue resumed =>
    exact Or.inl (server.book_eq _ rfl rfl rfl rfl
      (server.writeQueue.resumeRun_effect queue resumed).1)
  | writeCompleted queue frame completed =>
    exact Or.inl (server.book_eq _ rfl rfl rfl rfl
      (server.writeQueue.writeCompleted_effect queue frame completed).1)
  | writeFailed what queue failed =>
    exact Or.inl (server.book_eq _ rfl rfl rfl rfl
      (server.writeQueue.writeFailed_effect what queue failed).1)

/-- Every step of the connection changes the book at most once. -/
theorem step_book (event : ServerEvent ν) (after : ServerConnection ν)
    (stepped : server.step registry codec event = some after) :
    after.book = server.book ∨
      Step registry codec (server.isShuttingDown = true) (server.Brings registry codec event)
        server.book after.book := by
  cases server.step_advances stepped with
  | dispatches frame rest reading =>
    refine Or.inr (server.dispatchFrame_book sound frame rest (.reads frame rest rfl reading) ?_)
    intro status refused
    exact .concludes _ _ (by simp [conclusion, reading, Reader.batch, refused])
  | leaves reading => exact Or.inr (server.lost_step (server.endBatch_book sound))
  | acts acts => exact server.act_book sound event after acts

end Changes

end ServerConnection

end Runs

end Rillnet
