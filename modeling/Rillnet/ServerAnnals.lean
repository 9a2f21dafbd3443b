import Rillnet.Annals
import Rillnet.ServerWire

/-!
# The annals of a server connection

One lemma for each function of the connection says what it does to the annals.
Only a dispatched request starts an operation. A cancellation by the peer, an
undecodable request, a response and the loss of the connection settle operations,
and the end of the connection is reported whenever it comes, handlers or not.
-/

namespace Rillnet

namespace Annals

/-- An operation is settled, or the end of the connection is reported. -/
inductive Moves (annals : Annals) : Annals → Prop where
  | settles (index : Nat) (old new : Life) (result : OperationResult)
      (commits : annals.Commits index old new result) :
      Moves annals (annals.settle index new result)
  | closes : Moves annals annals.close

/-- Any number of such moves, one after the other. -/
def Course : Annals → Annals → Prop := Relation.ReflTransGen Moves

/-- What one step of a server does to its annals: an operation may start, and then
operations are settled and the end of the connection is reported. -/
structure Sequel (may : StreamId → Prop) (before after : Annals) : Prop where
  course : ∃ middle : Annals,
    (middle = before ∨ ∃ stream, may stream ∧ middle = before.start stream) ∧ Course middle after

variable {may : StreamId → Prop} {before after : Annals}

/-- A course of moves is a sequel in which no operation starts. -/
theorem Sequel.of_course (course : Course before after) : Sequel may before after :=
  ⟨before, Or.inl rfl, course⟩

/-- Where nothing moved, nothing started either. -/
theorem Sequel.same (unchanged : after = before) : Sequel may before after :=
  unchanged ▸ .of_course .refl

/-- The events that start an operation say nothing else. -/
def Plain (annals : Annals) : Prop :=
  ∀ event ∈ annals.events, event.starts = true → event = .started event.stream

/-- Every life is regular and every start is plain. -/
structure Sane (annals : Annals) : Prop where
  regular : annals.Regular
  plain : annals.Plain

/-- A move settles an operation that was not settled, and the end is reported last, so the
annals stay sane. -/
theorem Moves.sane (moves : before.Moves after) (sane : before.Sane) : after.Sane := by
  cases moves with
  | settles index old new result commits =>
    refine ⟨commits.regular sane.regular, ?_⟩
    intro event member starts
    rcases List.mem_append.mp member with earlier | last
    · exact sane.plain event earlier starts
    · obtain rfl := List.mem_singleton.mp last
      simp [(completionEvent_ends new.stream result).2.1] at starts
  | closes =>
    refine ⟨sane.regular, ?_⟩
    intro event member starts
    rcases List.mem_append.mp member with earlier | last
    · exact sane.plain event earlier starts
    · obtain rfl := List.mem_singleton.mp last
      simp [DiagnosticsEvent.starts, DiagnosticsEvent.closing] at starts

/-- A course of moves keeps the annals sane. -/
theorem Course.sane (course : Course before after) (sane : before.Sane) : after.Sane := by
  induction course with
  | refl => exact sane
  | tail _ moves inductionHypothesis => exact moves.sane inductionHypothesis

/-- An operation that starts is new to the annals and reported at once. -/
theorem start_sane (sane : before.Sane) (stream : StreamId) : (before.start stream).Sane := by
  refine ⟨start_regular sane.regular stream, ?_⟩
  intro event member starts
  rcases List.mem_append.mp member with earlier | last
  · exact sane.plain event earlier starts
  · obtain rfl := List.mem_singleton.mp last
    rfl

/-- What one step of a server does keeps the annals sane. -/
theorem Sequel.sane (sequel : Sequel may before after) (sane : before.Sane) : after.Sane := by
  obtain ⟨middle, rfl | ⟨stream, -, rfl⟩, course⟩ := sequel
  · exact course.sane sane
  · exact course.sane (start_sane sane stream)

/-- A course of moves is a run of the chronicle that the annals tell: each life goes on by
one step where it is settled. -/
theorem Course.chronicle (course : Course before after) (sane : before.Sane) :
    before.chronicle.Steps after.chronicle := by
  induction course with
  | refl => exact .refl
  | tail earlier moves inductionHypothesis =>
    cases moves with
    | settles index old new result commits =>
      exact inductionHypothesis.tail (commits.chronicle (Course.sane earlier sane).regular)
    | closes =>
      rw [close_chronicle]
      exact inductionHypothesis

/-- A step continues the chronicle, if operations start on free streams only. -/
theorem Sequel.chronicle (sequel : Sequel may before after) (sane : before.Sane)
    (free : ∀ stream, may stream → ∀ life ∈ before.lives, life.stream = stream →
      life.state ≠ .active) : before.chronicle.Steps after.chronicle := by
  obtain ⟨middle, rfl | ⟨stream, permitted, rfl⟩, course⟩ := sequel
  · exact course.chronicle sane
  · have opened := start_chronicle sane.regular stream (free stream permitted)
    exact Relation.ReflTransGen.trans (.single opened) (course.chronicle (start_sane sane stream))

end Annals

section Server

variable {τ : Type} {ν : τ → Type}

namespace ServerConnection

open Rillnet.Annals (Course Sequel)
open ClientConnection (completionEvent)

/-- The annals of a connection. A server sends no cancellations. -/
def annals (server : ServerConnection ν) : Annals where
  lives := server.invocations.map fun object => object.operation.life
  events := server.diagnostics.filter DiagnosticsEvent.notable
  cancellations := []
  closed := server.closedNotified

variable (server : ServerConnection ν) (invocation : Nat)

/-- An event that is not notable leaves no trace. -/
theorem notify_annals (event : DiagnosticsEvent) (quiet : event.notable = false) :
    (server.notify event).annals = server.annals := by
  simp [annals, notify, quiet]

/-- A transition of the lifecycle leaves the annals as they are. -/
@[simp] theorem transition_annals (next : ConnectionState) :
    (server.transition next).annals = server.annals := rfl

/-- Writing back a coroutine with the same operation changes nothing. -/
theorem set_annals {object : Invocation ν} (new : Invocation ν)
    (found : server.invocations[invocation]? = some object)
    (kept : new.operation.life = object.operation.life) :
    ({ server with
      invocations := server.invocations.set invocation new } : ServerConnection ν).annals =
        server.annals := by
  have same : (server.invocations.set invocation new).map (fun object => object.operation.life) =
      server.invocations.map fun object => object.operation.life := by
    apply List.ext_getElem?
    intro index
    rw [List.getElem?_map, List.getElem?_map, getElem?_set_found _ found]
    by_cases here : index = invocation
    · simp [here, found, kept]
    · simp [here]
  simp [annals, same]

/-- An invocation may change in everything but the life of its operation. -/
theorem modifyInvocation_annals (change : Invocation ν → Invocation ν)
    (kept : ∀ object, (change object).operation.life = object.operation.life) :
    (server.modifyInvocation invocation change).annals = server.annals := by
  cases found : server.invocations[invocation]? with
  | none => simp [modifyInvocation, List.modify_eq_self (List.getElem?_eq_none_iff.mp found)]
  | some object =>
    rw [modifyInvocation, modify_found _ found]
    exact server.set_annals invocation _ found (kept object)

/-- An error frame is the matter of the queue; no operation is settled by it. -/
@[simp] theorem sendOperationError_annals (stream : StreamId) (status : StatusCode) :
    (server.sendOperationError stream status).annals = server.annals := rfl

/-- Recording an ended stream leaves the annals as they are. -/
@[simp] theorem markTerminal_annals (frame : Frame) :
    (server.markTerminal frame).annals = server.annals := by
  unfold markTerminal
  split <;> rfl

/-- The queue of an idle connection is closed without an event. -/
@[simp] theorem closeQueueWhenIdle_annals : server.closeQueueWhenIdle.annals = server.annals := by
  unfold closeQueueWhenIdle
  split <;> rfl

/-- A failed connection reports a protocol error, which the annals do not follow. -/
@[simp] theorem failConnection_annals (status : StatusCode) (message : String) :
    (server.failConnection status message).annals = server.annals := by
  unfold failConnection
  dsimp only
  split
  · exact server.notify_annals _ rfl
  · rfl

/-- The end of a handler settles nothing: its operation was settled before, or is left as
it is. -/
@[simp] theorem finishHandler_annals : (server.finishHandler invocation).annals = server.annals := by
  unfold finishHandler
  split
  · rfl
  · rw [closeQueueWhenIdle_annals]
    exact server.modifyInvocation_annals invocation _ fun _ => rfl

/-- A handler whose response was offered ends, or waits for space. -/
@[simp] theorem afterOffer_annals (offered : WriteQueue × Option WriteResult) :
    (server.afterOffer invocation offered).annals = server.annals := by
  unfold afterOffer
  dsimp only
  split
  · exact modifyInvocation_annals _ invocation _ fun _ => rfl
  · rw [finishHandler_annals]
    exact modifyInvocation_annals _ invocation _ fun _ => rfl

/-- The end of the connection is reported, unless it was before. -/
theorem notifyClosed_annals : Course server.annals server.notifyClosed.annals := by
  unfold notifyClosed
  split
  · exact .refl
  · have closed : ({ server with closedNotified := true }.notify
        { type := .connectionClosed, status := .connectionClosed,
          message := "connection closed" } : ServerConnection ν).annals = server.annals.close := by
      simp [annals, notify, Annals.close, DiagnosticsEvent.notable, DiagnosticsEvent.closes,
        DiagnosticsEvent.closing]
    rw [closed]
    exact .single .closes

section Settling

variable (regular : server.annals.Regular)
include regular

/-- A terminal call is refused, or it settles the operation and the completion handler
reports the result. -/
theorem callOperation_annals (abandons : Bool)
    (call : Operation StreamId → Operation StreamId × Bool)
    (outcome : ∀ operation : Operation StreamId, operation.life.Regular →
      operation.Outcome abandons (call operation)) :
    Course server.annals (server.callOperation invocation call).1.annals := by
  cases found : server.invocations[invocation]? with
  | none =>
    simp only [callOperation, found]
    exact .refl
  | some object =>
    have lives : server.annals.lives[invocation]? = some object.operation.life := by
      simp [annals, found]
    have sane := regular object.operation.life (List.mem_of_getElem? lives)
    have ends := outcome object.operation sane
    generalize called : call object.operation = ended at ends
    cases ends with
    | refused =>
      have same : (server.callOperation invocation call).1.annals = server.annals := by
        have unchanged := server.set_annals invocation object found rfl
        simpa [callOperation, found, called, Operation.notified] using unchanged
      rw [same]
      exact .refl
    | won after result active stream handler inactive activated committed kind =>
      have reports : after.completionHandler = some after.life.stream := by
        rw [handler]
        exact sane.handler.trans (congrArg some stream.symm)
      obtain ⟨ends, -, -⟩ := completionEvent_ends after.life.stream result
      have notable : (completionEvent after.life.stream result).notable = true := by
        simp [DiagnosticsEvent.notable, ends]
      have settled : (server.callOperation invocation call).1.annals =
          server.annals.settle invocation after.life result := by
        simp [callOperation, found, called, Operation.notified, reports, committed, annals,
          Annals.settle, List.map_set, notable]
      rw [settled]
      exact .single (.settles invocation object.operation.life after.life result
        ⟨lives, active, stream, handler, inactive, activated, committed⟩)

/-- A request for cancellation alone is not reported. -/
theorem requestCancellation_annals :
    (server.callOperation invocation Operation.requestCancellation).1.annals = server.annals := by
  cases found : server.invocations[invocation]? with
  | none => simp [callOperation, found]
  | some object =>
    have sane : object.operation.life.Regular :=
      regular _ (List.mem_map.mpr ⟨object, List.mem_of_getElem? found, rfl⟩)
    have silent : Operation.notified object.operation.requestCancellation = none := by
      unfold Operation.requestCancellation
      split
      · rfl
      · rename_i running
        have active : object.operation.state = .active := by
          have activated : object.operation.state ≠ .created := sane.activated
          cases state : object.operation.state <;> simp_all [Operation.isTerminal]
        have unsettled : object.operation.result = none := sane.live.mp active
        simp [Operation.notified, unsettled]
    have same : object.operation.requestCancellation.1.life = object.operation.life := by
      unfold Operation.requestCancellation
      split <;> rfl
    have unchanged := server.set_annals invocation
      { object with operation := object.operation.requestCancellation.1 } found same
    simpa [callOperation, found, silent] using unchanged

omit regular in
/-- The loop over the operations of a lost connection. -/
theorem failOperations_annals (entries : List (Sigma fun _ : StreamId => Nat))
    (server : ServerConnection ν) (sane : server.annals.Sane) :
    Course server.annals (entries.foldl (fun server entry =>
      ((server.callOperation entry.2 Operation.requestCancellation).1.callOperation entry.2
        fun operation => operation.fail .connectionClosed
          "connection closed while processing a request").1) server).annals := by
  induction entries generalizing server with
  | nil => exact .refl
  | cons entry rest inductionHypothesis =>
    rw [List.foldl_cons]
    have asked := server.requestCancellation_annals entry.2 sane.regular
    have failed := callOperation_annals
      (server.callOperation entry.2 Operation.requestCancellation).1 entry.2
      (by rw [asked]; exact sane.regular) false _
      fun operation regular => operation.fail_outcome regular .connectionClosed
        "connection closed while processing a request"
    rw [asked] at failed
    exact Relation.ReflTransGen.trans failed (inductionHypothesis _ (failed.sane sane))

end Settling

section Sequels

variable (sane : server.annals.Sane)
include sane

/-- Every operation that is still active is failed and reported, one after the other. -/
theorem failOperationsOnConnectionClose_annals :
    Course server.annals server.failOperationsOnConnectionClose.annals :=
  failOperations_annals _ server sane

/-- The streams a dispatched frame may start an operation on. -/
def Opens (stream : StreamId) : Prop := server.operations.lookup stream = none

omit sane in
/-- A request that finds its handler starts an operation, and nothing more. -/
theorem spawnHandler_annals (frame : Frame) (handler : RequestHandler τ) :
    Sequel server.Opens server.annals (server.spawnHandler frame handler).annals := by
  unfold spawnHandler
  split
  · exact .same rfl
  · rename_i vacant
    have free : server.operations.lookup frame.header.stream = none := by simpa using vacant
    refine ⟨server.annals.start frame.header.stream, Or.inr ⟨_, free, rfl⟩, ?_⟩
    have started : (DiagnosticsEvent.started frame.header.stream).notable = true := rfl
    have events : (server.diagnostics ++ [DiagnosticsEvent.started frame.header.stream]).filter
        DiagnosticsEvent.notable = server.diagnostics.filter DiagnosticsEvent.notable ++
          [DiagnosticsEvent.started frame.header.stream] := by
      simp [started]
    have lives : (server.invocations ++
        [Invocation.spawn frame handler server.dispatched.length]).map
          (fun object : Invocation ν => object.operation.life) =
        (server.invocations.map fun object => object.operation.life) ++
          [Life.fresh frame.header.stream] := by
      rw [List.map_append]
      rfl
    have same : Annals.mk _ _ [] server.closedNotified = server.annals.start frame.header.stream :=
      congrArg₂ (fun lives events => Annals.mk lives events [] server.closedNotified) lives events
    exact same ▸ .refl

/-- Of all the frames only a request may start an operation, and only a cancellation
settles one. -/
theorem dispatch_annals (frame : Frame) :
    Sequel server.Opens server.annals (server.dispatch frame).annals := by
  unfold dispatch
  split
  · exact .same (by rw [markTerminal_annals, sendOperationError_annals])
  · split
    · exact .same (server.failConnection_annals _ _)
    · split
      · exact .same (server.failConnection_annals _ _)
      · split
        · split
          · rw [markTerminal_annals]
            exact .of_course (server.callOperation_annals _ sane.regular true _
              fun operation regular => operation.cancel_outcome regular _)
          · exact .same (server.failConnection_annals _ _)
        · split
          · exact .same (by rw [markTerminal_annals, sendOperationError_annals])
          · split
            · exact .same (by rw [markTerminal_annals, sendOperationError_annals])
            · exact server.spawnHandler_annals frame _

/-- Reading on after a frame adds nothing to what the frame did. -/
theorem dispatchFrame_annals (frame : Frame) (rest : List Frame) :
    Sequel server.Opens server.annals (server.dispatchFrame frame rest).annals := by
  have noted := server.notify_annals
    { type := .messageTransferred, stream := frame.header.stream, inbound := true } rfl
  have routed := dispatch_annals _ (noted ▸ sane) frame
  rw [noted] at routed
  exact routed

/-- When reading ends the operations of a lost connection are failed, and its end is
reported. -/
theorem finishReading_annals (lost : Bool) :
    Course server.annals (server.finishReading lost).annals := by
  unfold finishReading
  dsimp only
  refine Relation.ReflTransGen.trans ?_ (notifyClosed_annals _)
  rw [transition_annals, closeQueueWhenIdle_annals]
  cases lost with
  | true => exact server.failOperationsOnConnectionClose_annals sane
  | false => exact .refl

/-- The reader waits without an event, or ends. -/
theorem continueReading_annals : Course server.annals server.continueReading.annals := by
  unfold continueReading
  split
  · exact .refl
  · exact server.finishReading_annals sane false

/-- A batch that ended in a malformed header ends the reading as well. -/
theorem endBatch_annals : Course server.annals server.endBatch.annals := by
  unfold endBatch
  split
  · rename_i error _
    have noted := server.notify_annals
      { type := .protocolError, status := statusForFrameValidation error, inbound := true,
        message := frameValidationMessage error } rfl
    rw [← noted] at sane ⊢
    dsimp only
    generalize server.notify _ = reported at sane ⊢
    exact ({ reported with
      transportOpen := false
      violations := reported.violations ++ [(statusForFrameValidation error,
        frameValidationMessage error)] } : ServerConnection ν).finishReading_annals sane false
  · exact server.continueReading_annals sane

/-- The end of `shutdown` fails what is left and reports the end of the connection. -/
theorem finishShutdown_annals : Course server.annals server.finishShutdown.annals := by
  unfold finishShutdown
  dsimp only
  refine Relation.ReflTransGen.trans ?_ (notifyClosed_annals _)
  rw [transition_annals]
  split
  · exact .refl
  · exact server.failOperationsOnConnectionClose_annals sane

/-- The waiting loop does nothing, or ends `shutdown`. -/
theorem drain_annals (expired : Bool) : Course server.annals (server.drain expired).annals := by
  unfold drain
  split
  · exact server.finishShutdown_annals sane
  · exact .refl

omit sane in
/-- A connection begins to drain without an event of the annals. -/
theorem beginShutdown_annals : server.beginShutdown.annals = server.annals := by
  unfold beginShutdown
  dsimp only
  split <;> split <;> rfl

/-- A later poll does what the first could have done. -/
theorem drainTick_annals (expired aborted : Bool) :
    Course server.annals (server.drainTick expired aborted).annals := by
  unfold drainTick
  dsimp only
  split
  · exact ({ server with drains := server.drains - 1 } : ServerConnection ν).finishShutdown_annals
      sane
  · exact ({ server with drains := server.drains - 1 } : ServerConnection ν).drain_annals sane
      expired

section Handlers

variable [DecidableEq τ] (registry : MessageRegistry τ) (codec : Codec τ ν)

/-- A handler that starts settles its operation only if the request cannot be decoded. -/
theorem startHandler_annals {object : Invocation ν}
    (found : server.invocations[invocation]? = some object) :
    Course server.annals (server.startHandler registry codec invocation object).annals := by
  unfold startHandler
  dsimp only
  split
  · have same := server.set_annals invocation
      { object with
        stage := .handling
        argument := (decodeMessage registry codec object.handler.request object.frame).value }
      found rfl
    rw [same]
    exact .refl
  · rw [finishHandler_annals, sendOperationError_annals]
    exact server.callOperation_annals invocation sane.regular false _
      fun operation regular => operation.fail_outcome regular _ _

/-- A handler that returns completes its operation, unless it is over or there is no
response to send. -/
theorem handlerReturns_annals (object : Invocation ν) (type : τ) (value : ν type) :
    Course server.annals
      (server.handlerReturns registry codec invocation object type value).annals := by
  have completed := server.callOperation_annals invocation sane.regular false _
    fun operation regular => operation.complete_outcome regular "response ready"
  unfold handlerReturns
  split
  · rw [finishHandler_annals]
    exact .refl
  · dsimp only
    split
    · rw [afterOffer_annals]
      exact completed
    · rw [finishHandler_annals]
      exact completed

/-- Every event other than the loop over frames only settles operations and reports the
end of the connection. -/
theorem act_annals (event : ServerEvent ν) (after : ServerConnection ν)
    (acts : server.Acts registry codec event after) : Course server.annals after.annals := by
  cases acts with
  | handle request response =>
    unfold handle
    split
    · exact .refl
    · exact .refl
  | run =>
    unfold run
    dsimp only
    split
    · have quiet := ((server.transition .accepting).transition .active).notify_annals
        { type := .connectionOpened } rfl
      have same : ({ ((server.transition .accepting).transition .active).notify
          { type := .connectionOpened } with reader := .spawned } : ServerConnection ν).annals =
          server.annals := quiet
      rw [same]
      exact .refl
    · exact .refl
  | startWriter queue => exact .refl
  | startReader => exact server.continueReading_annals sane
  | received bytes =>
    have quiet := server.notify_annals
      { type := .bytesTransferred, bytes := bytes.length, inbound := true } rfl
    have same : (server.received bytes).annals = server.annals := quiet
    rw [same]
    exact .refl
  | endOfFile closes =>
    exact ({ server with
      transportOpen := server.transportOpen && !closes } : ServerConnection ν).finishReading_annals
        sane _
  | readFailed closes =>
    exact ({ server with
      transportOpen := server.transportOpen && !closes } : ServerConnection ν).finishReading_annals
        sane true
  | startHandler invocation object found =>
    exact server.startHandler_annals invocation sane registry codec found
  | handlerReturns invocation type value object found =>
    exact server.handlerReturns_annals invocation sane registry codec object type value
  | handlerThrows invocation object =>
    rw [finishHandler_annals]
    exact .refl
  | resumeEnqueue invocation queue result =>
    rw [afterOffer_annals]
    exact .refl
  | abortEnqueue invocation message queue => exact .refl
  | shutdown expired =>
    have begun : ({ server with
        shutdownEntered := true } : ServerConnection ν).beginShutdown.annals = server.annals :=
      beginShutdown_annals _
    have drained := drain_annals _ (begun ▸ sane) expired
    rw [begun] at drained
    exact drained
  | drainTick expired aborted => exact server.drainTick_annals sane expired aborted
  | resumeWriter queue => exact .refl
  | writeCompleted queue frame =>
    rw [notify_annals _ _ rfl, notify_annals _ _ rfl]
    exact .refl
  | writeFailed what queue => exact .refl

/-- What a step does to the annals. Only a dispatched request starts an operation, on a
stream that is not in the map. -/
theorem step_annals (event : ServerEvent ν) (after : ServerConnection ν)
    (stepped : server.step registry codec event = some after) :
    Sequel server.Opens server.annals after.annals := by
  cases server.step_advances stepped with
  | dispatches frame rest reading => exact server.dispatchFrame_annals sane frame rest
  | leaves reading => exact .of_course (server.endBatch_annals sane)
  | acts acts => exact .of_course (server.act_annals sane registry codec event after acts)

end Handlers

end Sequels

end ServerConnection

end Server

end Rillnet
