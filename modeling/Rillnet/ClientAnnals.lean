import Rillnet.Annals
import Rillnet.ClientClosing

/-!
# The annals of a client connection

One lemma for each function of the connection says what it does to the annals.
Most do nothing; the failing of requests settles operations, and the three
functions that send a cancellation abandon one. Every step is then a turn.
-/

namespace Rillnet

section Annals

variable {τ : Type} {ν : τ → Type}

namespace PendingRequest

variable (request : PendingRequest ν)

/-- A timer that starts may set a deadline; it is no event of the operation's life. -/
@[simp] theorem startTimer_life : request.startTimer.operation.life = request.operation.life := by
  unfold startTimer
  split
  · rfl
  · simp only [Operation.setDeadline]
    split <;> rfl

end PendingRequest

namespace ClientConnection

/-- The annals of a connection. -/
def annals (client : ClientConnection ν) : Annals where
  lives := client.requests.map fun request => request.operation.life
  events := client.diagnostics.filter DiagnosticsEvent.notable
  cancellations := client.cancellations
  closed := client.closedNotified

open Rillnet.Annals (Settling Settles Turn)

variable (client : ClientConnection ν) (request : Nat)

/-- An event that is not notable leaves no trace. -/
theorem notify_annals (event : DiagnosticsEvent) (quiet : event.notable = false) :
    (client.notify event).annals = client.annals := by
  simp [annals, notify, quiet]

/-- A transition of the lifecycle leaves the annals as they are. -/
@[simp] theorem transition_annals (next : ConnectionState) :
    (client.transition next).annals = client.annals := rfl

/-- An object may change in everything but the life of its operation. -/
theorem modifyRequest_annals (change : PendingRequest ν → PendingRequest ν)
    (kept : ∀ object, (change object).operation.life = object.operation.life) :
    (client.modifyRequest request change).annals = client.annals := by
  have same : (client.requests.modify request change).map
      (fun request => request.operation.life) =
      client.requests.map fun request => request.operation.life := by
    apply List.ext_getElem?
    intro index
    rw [List.getElem?_map, List.getElem?_map, List.getElem?_modify]
    cases client.requests[index]? with
    | none => rfl
    | some object =>
      by_cases here : request = index
      · simp [here, kept]
      · simp [here]
  simp [annals, modifyRequest, same]

/-- A channel that is closed wakes its waits and settles nothing. -/
@[simp] theorem closeChannel_annals :
    (client.modifyRequest request PendingRequest.closeChannel).annals = client.annals :=
  client.modifyRequest_annals request _ fun _ => rfl

/-- Entering a request in the map leaves the annals as they are. -/
@[simp] theorem emplacePending_annals (stream : StreamId) :
    (client.emplacePending stream request).annals = client.annals := by
  unfold emplacePending
  split <;> rfl

/-- Leaving the map settles nothing: the operation was settled before. -/
@[simp] theorem cleanupPending_annals (release : Bool) :
    (client.cleanupPending request release).annals = client.annals := by
  unfold cleanupPending
  split
  · rfl
  · rename_i object found
    have unlisted : (if object.removed then client else
        { client with
          requests := client.requests.set request
            { object with removed := true, timer := object.timer.cancel }
          pending :=
            if client.pending.lookup object.stream = some request then
              client.pending.erase object.stream
            else client.pending }).annals = client.annals := by
      split
      · rfl
      · have same := client.modifyRequest_annals request
          (fun object => { object with removed := true, timer := object.timer.cancel }) fun _ => rfl
        simp only [modifyRequest, modify_found _ found] at same
        exact same
    have released (other : ClientConnection ν) (same : other.annals = client.annals) :
        ({ other.modifyRequest request (fun object => { object with streamReleased := true }) with
          streamIds := other.streamIds.release object.stream } : ClientConnection ν).annals =
            client.annals :=
      (other.modifyRequest_annals request
        (fun object => { object with streamReleased := true }) fun _ => rfl).trans same
    dsimp only
    split
    · exact released _ unlisted
    · exact unlisted

/-- A cancellation is noted with its stream, whether the queue takes its frame or not. -/
theorem sendCancellation_annals (stream : StreamId) : (client.sendCancellation stream).annals =
    { client.annals with cancellations := client.annals.cancellations ++ [stream] } := rfl

/-- Recording an ended stream leaves the annals as they are. -/
@[simp] theorem markTerminal_annals (frame : Frame) :
    (client.markTerminal frame).annals = client.annals := by
  unfold markTerminal
  split <;> rfl

/-- The operation of a response was settled when the response won; delivering it adds
nothing. -/
@[simp] theorem deliver_annals (frame : Frame) :
    (client.deliver request frame).annals = client.annals := by
  rw [deliver, markTerminal_annals, cleanupPending_annals]
  apply modifyRequest_annals
  intro object
  rw [PendingRequest.trySend_operation]

section Settling

variable (regular : client.annals.Regular)
include regular

/-- A terminal call is refused and changes nothing, or it settles the operation and
its completion handler reports the result. -/
theorem finishOperation_annals (abandons : Bool)
    (call : Operation StreamId → Operation StreamId × Bool)
    (outcome : ∀ operation : Operation StreamId, operation.life.Regular →
      operation.Outcome abandons (call operation)) :
    ((client.finishOperation request call).2 = false ∧
      (client.finishOperation request call).1.annals = client.annals) ∨
    ((client.finishOperation request call).2 = true ∧ ∃ old new result,
      client.annals.Commits request old new result ∧ new.abandoned = abandons ∧
      (client.finishOperation request call).1.annals = client.annals.settle request new result ∧
      (client.finishOperation request call).1.streamOf request = new.stream ∧
      client.streamOf request = new.stream) := by
  cases found : client.requests[request]? with
  | none =>
    left
    simp [finishOperation, found]
  | some object =>
    have lives : client.annals.lives[request]? = some object.operation.life := by
      simp [annals, found]
    have sane := regular object.operation.life (List.mem_of_getElem? lives)
    have ends := outcome object.operation sane
    generalize called : call object.operation = ended at ends
    cases ends with
    | refused =>
      left
      rw [client.finishOperation_refused call found called]
      exact ⟨rfl, rfl⟩
    | won after result active stream handler inactive activated committed kind =>
      right
      have reports : after.completionHandler = some object.stream := handler.trans sane.handler
      rw [client.finishOperation_committed call after result found called reports committed]
      have same : object.stream = after.life.stream := stream.symm
      obtain ⟨ends, -, -⟩ := completionEvent_ends after.life.stream result
      have notable : (completionEvent after.life.stream result).notable = true := by
        simp [DiagnosticsEvent.notable, ends]
      refine ⟨rfl, object.operation.life, after.life, result,
        ⟨lives, active, stream, handler, inactive, activated, committed⟩, kind, ?_, ?_, ?_⟩
      · simp [annals, Annals.settle, List.map_set, notable, same]
      · simp [streamOf, getElem?_set_found _ found]
        rfl
      · simp [streamOf, found, same]

/-- A request that fails settles its operation if that is still active. -/
theorem failRequest_annals (status : StatusCode) (message : String) (release : Bool) :
    Settling client.annals (client.failRequest request status message release).annals := by
  rw [failRequest, cleanupPending_annals, closeChannel_annals]
  rcases client.finishOperation_annals request regular false _
    (fun operation sane => operation.fail_outcome sane status message) with
    ⟨-, same⟩ | ⟨-, old, new, result, commits, kept, settled, -⟩
  · rw [same]
    exact .refl
  · rw [settled]
    exact .single (.settles request old new result commits kept)

omit regular in
/-- Round by round the loop settles the operation of the entry it takes. -/
theorem failPendingLoop_annals (status : StatusCode) (message : String) (fuel : Nat)
    (client : ClientConnection ν) (regular : client.annals.Regular) :
    Settling client.annals (failPendingLoop status message fuel client).annals := by
  induction fuel generalizing client with
  | zero => exact .refl
  | succ fuel inductionHypothesis =>
    unfold failPendingLoop
    split
    · exact .refl
    · rename_i entry _
      have failed := client.failRequest_annals entry.2 regular status message false
      exact failed.trans (inductionHypothesis _ (failed.regular regular))

/-- Failing every request settles operations, and reports nothing else. -/
theorem failPending_annals (status : StatusCode) (message : String) :
    Settling client.annals (client.failPending status message).annals :=
  failPendingLoop_annals status message _ client regular

/-- A failed connection settles its requests; the protocol error itself is not followed. -/
theorem failConnection_annals (status : StatusCode) (message : String) :
    Settling client.annals (client.failConnection status message).annals := by
  unfold failConnection
  dsimp only
  split
  · have quiet := client.notify_annals
      { type := .protocolError, status := status, inbound := true, message := message } rfl
    rw [← quiet] at regular ⊢
    exact failPending_annals _ regular status message
  · exact client.failPending_annals regular status message

/-- The tail shared by cancellations and timeouts tells the peer. -/
theorem abandonPending_annals (abandons : Bool)
    (call : Operation StreamId → Operation StreamId × Bool)
    (outcome : ∀ operation : Operation StreamId, operation.life.Regular →
      operation.Outcome abandons (call operation)) (given : abandons = true) :
    ((client.finishOperation request call).2 = false ∧
      (client.finishOperation request call).1.annals = client.annals) ∨
    ((client.finishOperation request call).2 = true ∧
      client.annals.Abandons
        ((client.finishOperation request call).1.abandonPending request).annals) := by
  rcases client.finishOperation_annals request regular abandons call outcome with
    refused | ⟨committed, old, new, result, commits, kind, settled, stream, -⟩
  · exact Or.inl refused
  · refine Or.inr ⟨committed, ?_⟩
    rw [abandonPending, cleanupPending_annals, closeChannel_annals, stream]
    rw [sendCancellation_annals, settled]
    exact .abandons request old new result commits (kind.trans given)

/-- A deadline that passes abandons the request, or finds it over. -/
theorem timeoutPending_annals :
    (client.timeoutPending request).annals = client.annals ∨
      client.annals.Abandons (client.timeoutPending request).annals := by
  unfold timeoutPending
  dsimp only
  rcases client.abandonPending_annals request regular true _
    (fun operation _ => operation.timeout_outcome "operation deadline exceeded") rfl with
    ⟨refused, same⟩ | ⟨committed, abandons⟩
  · simp only [refused, Bool.false_eq_true, if_false]
    exact Or.inl same
  · simp only [committed, if_true]
    exact Or.inr abandons

/-- A cancellation by the application abandons the request, or finds it over. -/
theorem cancelPending_annals (message : String) :
    (client.cancelPending request message).1.annals = client.annals ∨
      client.annals.Abandons (client.cancelPending request message).1.annals := by
  unfold cancelPending
  dsimp only
  rcases client.abandonPending_annals request regular true _
    (fun operation sane => operation.cancel_outcome sane message) rfl with
    ⟨refused, same⟩ | ⟨committed, abandons⟩
  · simp only [refused, Bool.false_eq_true, if_false]
    exact Or.inl same
  · simp only [committed, if_true]
    exact Or.inr abandons

/-- A dropped handle tells the peer only where the operation was still active. -/
theorem discardPending_annals :
    (client.discardPending request).annals = client.annals ∨
      client.annals.Abandons (client.discardPending request).annals := by
  unfold discardPending
  dsimp only
  rw [cleanupPending_annals]
  cases terminal : client.isTerminal request with
  | true => exact Or.inl rfl
  | false =>
    simp only [Bool.false_eq_true, if_false]
    rw [closeChannel_annals]
    rcases client.finishOperation_annals request regular true _
      (fun operation sane => operation.cancel_outcome sane "operation handle released") with
      ⟨refused, -⟩ | ⟨-, old, new, result, commits, kind, settled, -, stream⟩
    · -- a call on an operation that is not over is not refused
      cases found : client.requests[request]? with
      | none => simp [isTerminal, found] at terminal
      | some object =>
        have sane : object.operation.life.Regular :=
          regular _ (List.mem_map.mpr ⟨object, List.mem_of_getElem? found, rfl⟩)
        have activated : object.operation.state ≠ .created := sane.activated
        have live : object.operation.state = .active := by
          simp only [isTerminal, found, Option.map_some, Option.getD_some] at terminal
          cases state : object.operation.state <;>
            simp_all [Operation.isTerminal]
        simp [finishOperation, found, object.operation.cancel_eq _ activated, live] at refused
    · right
      rw [stream]
      rw [sendCancellation_annals, settled]
      exact .abandons request old new result commits kind

/-- Routing a frame abandons an operation, or settles some. -/
theorem dispatch_annals (frame : Frame) :
    (client.dispatch frame).annals = client.annals ∨
      client.annals.Abandons (client.dispatch frame).annals ∨
      Settling client.annals (client.dispatch frame).annals := by
  unfold dispatch
  split
  · exact Or.inr (Or.inr (client.failConnection_annals regular _ _))
  · split
    · exact Or.inr (Or.inr (client.failConnection_annals regular _ _))
    · rename_i request _
      split
      · exact Or.inr (Or.inr (client.failConnection_annals regular _ _))
      · split
        · rw [markTerminal_annals]
          rcases client.cancelPending_annals request regular "operation cancelled by peer" with
            same | abandons
          · exact Or.inl same
          · exact Or.inr (Or.inl abandons)
        · split
          · split
            · exact Or.inr (Or.inr (client.failConnection_annals regular _ _))
            · rw [markTerminal_annals]
              exact Or.inr (Or.inr (client.failRequest_annals request regular _ _ _))
          · dsimp only
            have completes := client.finishOperation_annals request regular false _
              (fun operation sane => operation.complete_outcome sane "response received")
            rcases completes with ⟨refused, same⟩ |
              ⟨committed, old, new, result, commits, kept, settled, -⟩
            · simp only [refused, Bool.false_eq_true, if_false]
              rw [← same] at regular ⊢
              exact Or.inr (Or.inr (failConnection_annals _ regular _ _))
            · simp only [committed, if_true, deliver_annals]
              rw [settled]
              exact Or.inr (Or.inr (.single (.settles request old new result commits kept)))

/-- A request whose frame was refused is settled; one whose frame was accepted goes on. -/
theorem finishStart_annals (sent : WriteResult) :
    Settling client.annals (client.finishStart request sent).annals := by
  unfold finishStart
  split
  · rw [modifyRequest_annals]
    · exact .refl
    · intro object
      rw [PendingRequest.startTimer_life]
  · rw [modifyRequest_annals]
    · exact client.failRequest_annals request regular sent.status sent.message true
    · exact fun _ => rfl

/-- A request waits for space, or its start is finished. -/
theorem afterOffer_annals (offered : WriteQueue × Option WriteResult) :
    Settling client.annals (client.afterOffer request offered).annals := by
  unfold afterOffer
  split
  · exact .refl
  · rename_i sent _
    exact ({ client with writeQueue := offered.1 } : ClientConnection ν).finishStart_annals request
      regular sent

end Settling

/-- The end of the connection is reported, unless it was before. -/
theorem notifyClosed_annals :
    client.notifyClosed.annals = client.annals ∨
      client.annals.closed = false ∧ client.notifyClosed.annals = client.annals.close := by
  unfold notifyClosed
  cases closed : client.closedNotified with
  | true => exact Or.inl rfl
  | false =>
    refine Or.inr ⟨closed, ?_⟩
    simp only [Bool.false_eq_true, if_false, annals, notify, List.filter_append, Annals.close]
    rfl

section Turns

variable {may : StreamId → Prop} {ended : Prop} (regular : client.annals.Regular)
include regular

omit regular in
/-- Reporting the end completes a turn, if the end has come. -/
theorem notifyClosed_turn {before : Annals} (settling : Settling before client.annals)
    (finished : ended) : Turn may ended before client.notifyClosed.annals := by
  refine ⟨before, client.annals, Or.inl rfl, settling, ?_⟩
  rcases client.notifyClosed_annals with same | closes
  · exact Or.inl same
  · exact Or.inr ⟨finished, closes⟩

/-- When reading ends, what is pending is settled and the end is reported. -/
theorem finishReading_turn {before : Annals} (earlier : Settling before client.annals)
    (closes : ended) : Turn may ended before client.finishReading.annals := by
  unfold finishReading
  refine notifyClosed_turn _ ?_ closes
  exact earlier.trans (client.failPending_annals regular .connectionClosed
    "connection closed while awaiting a response")

/-- The end of `shutdown` settles what is pending and reports the end. -/
theorem finishShutdown_turn (closes : ended) :
    Turn may ended client.annals client.finishShutdown.annals := by
  have failed : Settling client.annals (if client.pending.entries.isEmpty then client
      else client.failPending .connectionClosed "connection drain period expired").annals := by
    split
    · exact .refl
    · exact client.failPending_annals regular _ _
  unfold finishShutdown
  refine notifyClosed_turn _ ?_ closes
  exact failed

/-- The reader waits without an event, or ends with the transport. -/
theorem continueReading_annals (closes : client.transportOpen = false → ended) :
    Turn may ended client.annals client.continueReading.annals := by
  unfold continueReading
  split
  · exact .same rfl
  · rename_i lost
    exact client.finishReading_turn regular .refl (closes (by simpa using lost))

/-- After a malformed header the requests are settled and the end is reported; after a
sound batch the reader goes on. -/
theorem endBatch_annals (malformed : client.decoder.error ≠ none → ended)
    (lost : client.decoder.error = none → client.transportOpen = false → ended) :
    Turn may ended client.annals client.endBatch.annals := by
  unfold endBatch
  cases found : client.decoder.error with
  | some error =>
    have failed := client.failConnection_annals regular (statusForFrameValidation error)
      (frameValidationMessage error)
    exact finishReading_turn _ (failed.regular regular) failed (malformed (by simp [found]))
  | none => exact client.continueReading_annals regular (lost found)

/-- Reading on after a frame adds nothing to what the frame did. -/
theorem dispatchFrame_annals (frame : Frame) (rest : List Frame) :
    Turn may ended client.annals (client.dispatchFrame frame rest).annals := by
  have quiet := client.notify_annals
    { type := .messageTransferred, stream := frame.header.stream, inbound := true } rfl
  rw [← quiet] at regular ⊢
  rcases dispatch_annals _ regular frame with same | abandons | settling
  · exact .same same
  · exact .told (Or.inr abandons)
  · exact .settling settling

/-- The waiting loop of `shutdown` does nothing, or ends it. -/
theorem drain_annals (expired : Bool)
    (closes : (client.pending.entries.isEmpty || expired) = true → ended) :
    Turn may ended client.annals (client.drain expired).annals := by
  unfold drain
  split
  · rename_i finishes
    exact client.finishShutdown_turn regular (closes finishes)
  · exact .same rfl

variable [DecidableEq τ] (registry : MessageRegistry τ) (codec : Codec τ ν)

/-- A request that is registered starts an operation; the queue may refuse its frame
at once. -/
theorem startRequest_turn (type : τ) (value : ν type) (response : τ)
    (deadline : Option Deadline) :
    Turn (fun stream => client.isShuttingDown = false ∧
        client.streamIds.allocate.2.stream = some stream) ended client.annals
      (client.startRequest registry codec type value response deadline).annals := by
  unfold startRequest
  split
  · exact .same rfl
  · rename_i serving
    dsimp only
    split
    · exact .same rfl
    · rename_i stream allocation
      split
      · exact .same rfl
      · rename_i frame _
        have registered : ((({ client with
            streamIds := client.streamIds.allocate.1
            requests := client.requests ++ [PendingRequest.create stream response deadline] } :
              ClientConnection ν).emplacePending stream client.requests.length).notify
                { type := .requestStarted, stream := stream }).annals =
            client.annals.start stream := by
          have opened : ({ client with
              streamIds := client.streamIds.allocate.1
              requests := client.requests ++ [PendingRequest.create stream response deadline] } :
                ClientConnection ν).annals =
              { client.annals with lives := client.annals.lives ++ [Life.fresh stream] } := by
            simp only [annals, List.map_append]
            rfl
          rw [← emplacePending_annals _ client.requests.length stream] at opened
          have events := congrArg Annals.events opened
          simp only [annals] at opened events
          simp only [annals, notify, List.filter_append, events, Annals.start]
          simp only [Annals.mk.injEq] at opened
          simp only [opened]
          rfl
        refine ⟨client.annals.start stream, _,
          Or.inr (Or.inl ⟨stream, ⟨by simpa using serving, allocation⟩, rfl⟩), ?_, Or.inl rfl⟩
        rw [← registered]
        apply afterOffer_annals
        rw [registered]
        exact Annals.start_regular regular stream

end Turns

section Steps

variable [DecidableEq τ] {registry : MessageRegistry τ} {codec : Codec τ ν}

/-- The streams on which an operation may start in a state. -/
def Serves (stream : StreamId) : Prop :=
  client.isShuttingDown = false ∧ client.streamIds.allocate.2.stream = some stream

omit [DecidableEq τ] in
/-- The end of the read loop closes the lifecycle. -/
theorem finishReading_lifecycle (orderly : client.shell.Orderly)
    (begun : client.reader ≠ .notStarted) : client.finishReading.lifecycle = .closed := by
  have closes := orderly.closes (orderly.begun begun)
  exact (congrArg ConnectionShell.lifecycle client.finishReading_shell).trans closes

omit [DecidableEq τ] in
/-- The end of `shutdown` closes a lifecycle that is drained or closed already. -/
theorem finishShutdown_lifecycle
    (drained : client.lifecycle = .draining ∨ client.lifecycle = .closed) :
    client.finishShutdown.lifecycle = .closed := by
  have closes := congrArg ConnectionShell.lifecycle client.finishShutdown_shell
  refine closes.trans ?_
  change (client.lifecycle.transition .closed).1 = .closed
  rcases drained with draining | closed
  · rw [draining]
    rfl
  · rw [closed]
    rfl

/-- Every event other than the loop over frames is a turn of the annals. -/
theorem act_annals (event : ClientEvent ν) (after : ClientConnection ν)
    (regular : client.annals.Regular) (orderly : client.shell.Orderly)
    (acts : client.Acts registry codec event after) :
    Turn client.Serves (after.lifecycle = .closed) client.annals after.annals := by
  cases acts with
  | run =>
    have opened : (if client.lifecycle = .created then
        ((client.transition .connecting).transition .active).notify { type := .connectionOpened }
        else client).annals = client.annals := by
      split
      · exact notify_annals _ _ rfl
      · rfl
    exact .same opened
  | startWriter queue => exact .same rfl
  | startReader spawned =>
    apply client.continueReading_annals regular
    intro lost
    have closed := client.finishReading_lifecycle orderly (by simp [spawned])
    simpa [continueReading, lost] using closed
  | startRequest type value response deadline =>
    exact client.startRequest_turn regular registry codec type value response deadline
  | resumeEnqueue request queue result =>
    exact .settling (client.afterOffer_annals request regular (queue, result))
  | abortEnqueue request message queue => exact .same rfl
  | cancel request message => exact .told (client.cancelPending_annals request regular message)
  | timerExpires request => exact .same (client.modifyRequest_annals request _ fun _ => rfl)
  | timerExpired request =>
    have handled := client.modifyRequest_annals request
      (fun object => { object with timer := .done }) fun _ => rfl
    rw [← handled] at regular ⊢
    exact .told (timeoutPending_annals _ request regular)
  | timerCancelled request =>
    have handled := client.modifyRequest_annals request
      (fun object => { object with timer := .done }) fun _ => rfl
    exact .same handled
  | destroyHandle request =>
    rw [modifyRequest_annals]
    · exact .told (client.discardPending_annals request regular)
    · exact fun _ => rfl
  | asyncWait request => exact .same (client.modifyRequest_annals request _ fun _ => rfl)
  | resumeWait request wait object posted =>
    refine .same ?_
    rw [resumeWait, modifyRequest_annals, cleanupPending_annals, modifyRequest_annals]
    · exact fun _ => rfl
    · exact fun _ => rfl
  | abortWait request wait => exact .same (client.modifyRequest_annals request _ fun _ => rfl)
  | received bytes => exact .same (notify_annals _ _ rfl)
  | endOfFile closes awaiting | readFailed closes awaiting =>
    let stopped : ClientConnection ν :=
      { client with transportOpen := client.transportOpen && !closes }
    have closed : stopped.finishReading.lifecycle = .closed := by
      have begun := orderly.begun (by simp [shell, awaiting])
      exact (congrArg ConnectionShell.lifecycle stopped.finishReading_shell).trans
        (orderly.closes begun)
    exact stopped.finishReading_turn regular .refl closed
  | shutdown expired =>
    have begun := ({ client with shutdownEntered := true } : ClientConnection ν).beginShutdown_shell
    have same : ({ client with shutdownEntered := true } : ClientConnection ν
        ).beginShutdown.annals = client.annals := by
      unfold beginShutdown
      dsimp only
      split <;> split <;> rfl
    rw [shutdown, ← same]
    apply drain_annals _ (same ▸ regular)
    intro finishes
    rw [drain, if_pos finishes]
    apply finishShutdown_lifecycle
    have lifecycle := congrArg ConnectionShell.lifecycle begun
    change (({ client with shutdownEntered := true } : ClientConnection ν).beginShutdown).lifecycle =
      client.lifecycle.drained at lifecycle
    rw [lifecycle]
    exact orderly.drains
  | drainTick expired aborted suspended =>
    have drained : client.lifecycle = .draining ∨ client.lifecycle = .closed :=
      orderly.entered (orderly.suspended suspended)
    let resumed : ClientConnection ν := { client with drains := client.drains - 1 }
    have closed : resumed.finishShutdown.lifecycle = .closed :=
      resumed.finishShutdown_lifecycle drained
    cases aborted with
    | true => exact resumed.finishShutdown_turn regular closed
    | false =>
      refine resumed.drain_annals regular expired ?_
      intro finishes
      change (resumed.drain expired).lifecycle = .closed
      rw [drain, if_pos finishes]
      exact closed
  | resumeWriter queue => exact .same rfl
  | writeCompleted queue frame =>
    exact .same ((notify_annals _ _ rfl).trans (notify_annals _ _ rfl))
  | writeFailed what queue => exact .same rfl

/-- Every step of the connection is a turn of its annals. -/
theorem step_annals (event : ClientEvent ν) (after : ClientConnection ν)
    (regular : client.annals.Regular) (orderly : client.shell.Orderly)
    (stepped : client.step registry codec event = some after) :
    Turn client.Serves (after.lifecycle = .closed) client.annals after.annals := by
  cases client.step_advances stepped with
  | dispatches frame rest reading => exact client.dispatchFrame_annals regular frame rest
  | leaves reading =>
    have begun : client.reader ≠ .notStarted := by simp [reading]
    apply client.endBatch_annals regular
    · intro malformed
      obtain ⟨error, found⟩ := Option.ne_none_iff_exists'.mp malformed
      have closes := orderly.closes (orderly.begun begun)
      have left : client.endBatch = (client.failConnection (statusForFrameValidation error)
          (frameValidationMessage error)).finishReading := by
        simp only [endBatch, found]
      have lifecycle : client.endBatch.shell.lifecycle = .closed := by
        rw [left, finishReading_shell, failConnection_shell]
        exact closes
      exact lifecycle
    · intro sound lost
      have closed := client.finishReading_lifecycle orderly begun
      simpa [endBatch, sound, continueReading, lost] using closed
  | acts _ acts => exact client.act_annals event after regular orderly acts

end Steps

end ClientConnection

end Annals

end Rillnet
