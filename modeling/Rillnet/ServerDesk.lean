import Rillnet.ServerWire

/-!
# Which handler has which request

The part of a server connection that decides who works on what: the table of
handlers and, for every handler coroutine, its frame, its handler, whether it has
started and the value it was given. A step of the connection changes it in one of
three ways: a handler is registered, a request is filed under the handler the
table has for it, or a coroutine starts and is given its request.
-/

namespace Rillnet

section Desks

variable {τ : Type} {ν : τ → Type}

/-- What is known of one handler coroutine: the value given to the application's
handler comes with its type. -/
structure Dossier (ν : τ → Type) where
  frame : Frame
  handler : RequestHandler τ
  started : Bool
  received : Option (Sigma ν)

def Invocation.dossier (object : Invocation ν) : Dossier ν where
  frame := object.frame
  handler := object.handler
  started := decide (object.stage ≠ .spawned)
  received := object.argument.map (Sigma.mk object.handler.request)

/-- The handlers of a connection and what they work on. -/
structure Desk (ν : τ → Type) where
  handlers : AList (fun _ : MessageType => RequestHandler τ)
  dossiers : List (Dossier ν)

def ServerConnection.desk (server : ServerConnection ν) : Desk ν where
  handlers := server.handlers
  dossiers := server.invocations.map Invocation.dossier

/-- A coroutine has started. -/
def Desk.begin (desk : Desk ν) (invocation : Nat) (dossier : Dossier ν) : Desk ν :=
  { desk with dossiers := desk.dossiers.set invocation { dossier with started := true } }

/-- A coroutine starts only once. -/
theorem Desk.begin_started {desk : Desk ν} {invocation : Nat} {dossier : Dossier ν}
    (found : desk.dossiers[invocation]? = some dossier) (started : dossier.started = true) :
    desk.begin invocation dossier = desk := by
  have same : ({ dossier with started := true } : Dossier ν) = dossier := by rw [← started]
  rw [begin, same, set_found found]

/-- What a coroutine has at its start: the request it decoded, if it could. -/
def Dossier.given [DecidableEq τ] (registry : MessageRegistry τ) (codec : Codec τ ν)
    (dossier : Dossier ν) : Dossier ν :=
  let request := decodeMessage registry codec dossier.handler.request dossier.frame
  if request.ok then
    { dossier with received := request.value.map (Sigma.mk dossier.handler.request) }
  else dossier

namespace ServerConnection

variable (server : ServerConnection ν) (invocation : Nat)

section Keeping

@[simp] theorem notify_desk (event : DiagnosticsEvent) : (server.notify event).desk = server.desk :=
  rfl

@[simp] theorem sendOperationError_desk (stream : StreamId) (status : StatusCode) :
    (server.sendOperationError stream status).desk = server.desk := rfl

@[simp] theorem callOperation_desk (call : Operation StreamId → Operation StreamId × Bool) :
    (server.callOperation invocation call).1.desk = server.desk := by
  unfold callOperation
  split
  · rfl
  · rename_i object found
    have kept : server.desk.dossiers[invocation]? = some object.dossier := by simp [desk, found]
    change ({ handlers := server.handlers, dossiers := _ } : Desk ν) = server.desk
    rw [List.map_set]
    exact congrArg (fun dossiers : List (Dossier ν) => (⟨server.handlers, dossiers⟩ : Desk ν))
      (set_found kept)

@[simp] theorem markTerminal_desk (frame : Frame) :
    (server.markTerminal frame).desk = server.desk := by
  unfold markTerminal
  split <;> rfl

@[simp] theorem failConnection_desk (status : StatusCode) (message : String) :
    (server.failConnection status message).desk = server.desk := by
  unfold failConnection
  dsimp only
  split <;> rfl

/-- What handlers work on has nothing to do with the queue, the reader and the end of the
connection. -/
theorem desk_still : Still (desk : ServerConnection ν → Desk ν) where
  transition := fun _ _ => rfl
  closes := fun _ => rfl
  tells := by
    intro server
    unfold notifyClosed
    split <;> rfl
  suspends := fun _ _ => rfl
  enters := fun _ => rfl
  calls := callOperation_desk
  opens := fun _ => rfl
  queues := fun _ _ => rfl
  reads := fun _ _ _ => rfl

@[simp] theorem endBatch_desk : server.endBatch.desk = server.desk := by
  unfold endBatch
  split
  · exact desk_still.finishReading _ false
  · exact desk_still.continueReading server

end Keeping

section Starting

variable {invocation} {dossier : Dossier ν}
variable (found : server.desk.dossiers[invocation]? = some dossier)
include found

/-- A change of one coroutine that leaves its dossier alone, or has it started. -/
theorem modifyInvocation_desk (change : Invocation ν → Invocation ν) (after : Dossier ν)
    (changed : ∀ object : Invocation ν, object.dossier = dossier → (change object).dossier = after) :
    (server.modifyInvocation invocation change).desk =
      { server.desk with dossiers := server.desk.dossiers.set invocation after } := by
  obtain ⟨object, present, filed⟩ : ∃ object, server.invocations[invocation]? = some object ∧
      object.dossier = dossier := by
    simpa [desk] using found
  have changed := changed object filed
  simp [desk, modifyInvocation, modify_found change present, List.map_set, changed]

/-- The end of a coroutine leaves its dossier as of one that has started. -/
theorem finishHandler_desk :
    (server.finishHandler invocation).desk = server.desk.begin invocation dossier := by
  obtain ⟨object, present, -⟩ : ∃ object, server.invocations[invocation]? = some object ∧
      object.dossier = dossier := by
    simpa [desk] using found
  unfold finishHandler
  rw [present]
  dsimp only
  rw [desk_still.closeQueueWhenIdle]
  refine server.modifyInvocation_desk found _ { dossier with started := true } ?_
  rintro object rfl
  rfl

/-- So does the offer of its response. -/
theorem afterOffer_desk (offered : WriteQueue × Option WriteResult) :
    (server.afterOffer invocation offered).desk = server.desk.begin invocation dossier := by
  unfold afterOffer
  dsimp only
  split
  · refine modifyInvocation_desk { server with writeQueue := offered.1 } found _
      { dossier with started := true } ?_
    rintro object rfl
    rfl
  · rename_i result _
    have noted : (({ server with writeQueue := offered.1 } : ServerConnection ν).modifyInvocation
        invocation fun object => { object with
          reply := if result.ok then some (offered.1.accepted.length - 1) else object.reply }).desk =
        server.desk := by
      refine (modifyInvocation_desk { server with writeQueue := offered.1 } found _ dossier
        ?_).trans ?_
      · intro object filed
        exact filed
      · exact congrArg (fun dossiers : List (Dossier ν) => (⟨server.handlers, dossiers⟩ : Desk ν))
          (set_found found)
    rw [finishHandler_desk _ ((congrArg (·.dossiers[invocation]?) noted).trans found), noted]

end Starting

section Steps

variable [DecidableEq τ] (registry : MessageRegistry τ) (codec : Codec τ ν)

/-- Everything a step does to the desk. -/
inductive Files (event : ServerEvent ν) : Desk ν → Prop where
  | kept : Files event server.desk
  | registered (request response : τ) (id : MessageType)
      (registers : event = .handle request response)
      (named : registry.messageType request = some id) :
      Files event { server.desk with
        handlers := server.handlers.insert id ⟨request, response, server.registrations⟩ }
  | spawned (frame : Frame) (rest : List Frame) (id : MessageType) (handler : RequestHandler τ)
      (dispatches : event = .dispatchNext) (reading : server.reader = .dispatching (frame :: rest))
      (peeked : peekMessageType frame.payload = some id)
      (listed : server.handlers.lookup id = some handler) :
      Files event { server.desk with
        dossiers := server.desk.dossiers ++ [⟨frame, handler, false, none⟩] }
  | started (place : Nat) (dossier : Dossier ν) (starts : event = .startHandler place)
      (found : server.desk.dossiers[place]? = some dossier) (waiting : dossier.started = false) :
      Files event (server.desk.begin place (dossier.given registry codec))

variable {registry codec}

omit [DecidableEq τ] in
/-- A coroutine in a later stage has started. -/
theorem desk_started {object : Invocation ν} (found : server.invocations[invocation]? = some object)
    (running : object.stage ≠ .spawned) :
    server.desk.dossiers[invocation]? = some object.dossier ∧ object.dossier.started = true := by
  refine ⟨by simp [desk, found], ?_⟩
  simp [Invocation.dossier, running]

omit [DecidableEq τ] in
/-- The end of a running coroutine is not on file. -/
theorem finishHandler_desk_running {object : Invocation ν}
    (found : server.desk.dossiers[invocation]? = some object.dossier)
    (running : object.dossier.started = true) :
    (server.finishHandler invocation).desk = server.desk := by
  rw [server.finishHandler_desk found, Desk.begin_started found running]

/-- A handler that returns changes no dossier. -/
theorem handlerReturns_desk {object : Invocation ν}
    (found : server.invocations[invocation]? = some object) (handling : object.stage = .handling)
    (type : τ) (value : ν type) :
    (server.handlerReturns registry codec invocation object type value).desk = server.desk := by
  obtain ⟨filed, running⟩ := server.desk_started invocation found (by simp [handling])
  unfold handlerReturns
  split
  · exact server.finishHandler_desk_running invocation filed running
  · dsimp only
    have completed := server.callOperation_desk invocation
      fun operation => operation.complete "response ready"
    have kept := (congrArg (·.dossiers[invocation]?) completed).trans filed
    split
    · rw [afterOffer_desk _ kept, completed, Desk.begin_started filed running]
    · rw [finishHandler_desk_running _ invocation kept running, completed]

/-- A coroutine that starts has what it decoded. -/
theorem startHandler_desk {object : Invocation ν}
    (found : server.invocations[invocation]? = some object) :
    (server.startHandler registry codec invocation object).desk =
      server.desk.begin invocation (object.dossier.given registry codec) := by
  have filed : server.desk.dossiers[invocation]? = some object.dossier := by simp [desk, found]
  unfold startHandler Dossier.given
  dsimp only
  change _ = server.desk.begin invocation
    (if (decodeMessage registry codec object.handler.request object.frame).ok then _ else _)
  split
  · simp [desk, Desk.begin, List.map_set, Invocation.dossier]
  · have failed := server.callOperation_desk invocation fun operation =>
      operation.fail (decodeMessage registry codec object.handler.request object.frame).status
        (decodeMessage registry codec object.handler.request object.frame).message
    have kept := (congrArg (·.dossiers[invocation]?) failed).trans filed
    refine (finishHandler_desk _ ?_).trans (congrArg (Desk.begin · invocation _) failed)
    exact kept

/-- Outside the loop over frames handlers are registered and coroutines start. -/
theorem act_desk (sound : server.book.Sound) (event : ServerEvent ν) (after : ServerConnection ν)
    (acts : server.Acts registry codec event after) :
    server.Files registry codec event after.desk := by
  have same : after.desk = server.desk → server.Files registry codec event after.desk := by
    intro kept
    rw [kept]
    exact .kept
  cases acts with
  | handle request response =>
    unfold handle at same ⊢
    split
    · exact .kept
    · rename_i id named
      exact .registered request response id rfl named
  | run => exact same (desk_still.run server)
  | startWriter queue => exact .kept
  | startReader => exact same (desk_still.continueReading server)
  | received bytes => exact .kept
  | endOfFile closes | readFailed closes =>
    exact same (desk_still.finishReading _ _)
  | startHandler place object found spawned =>
    rw [server.startHandler_desk place found]
    exact .started place object.dossier rfl (by simp [desk, found])
      (by simp [Invocation.dossier, spawned])
  | handlerReturns place type value object found handling =>
    exact same (server.handlerReturns_desk place found handling type value)
  | handlerThrows place object found handling =>
    obtain ⟨filed, running⟩ := server.desk_started place found (by simp [handling])
    exact same (server.finishHandler_desk_running place filed running)
  | resumeEnqueue place queue result resumed =>
    -- Only a coroutine that responds waits in the queue.
    obtain ⟨frame, holds, -⟩ := server.writeQueue.resumeEnqueue_effect place queue result resumed
    obtain ⟨object, found, responding, -⟩ := sound.held place frame holds
    obtain ⟨filed, running⟩ := server.desk_started place found (by simp [responding])
    apply same
    rw [server.afterOffer_desk filed, Desk.begin_started filed running]
  | abortEnqueue place message queue => exact .kept
  | shutdown expired => exact same (desk_still.shutdown server expired)
  | drainTick expired aborted => exact same (desk_still.drainTick server expired aborted)
  | resumeWriter queue => exact .kept
  | writeCompleted queue frame => exact .kept
  | writeFailed what queue => exact .kept

omit [DecidableEq τ] in
/-- A routed frame is filed under the handler for its identifier, or not at all. -/
theorem dispatch_desk (frame : Frame) :
    (server.dispatch frame).desk = server.desk ∨
      ∃ id handler, peekMessageType frame.payload = some id ∧
        server.handlers.lookup id = some handler ∧
        (server.dispatch frame).desk = { server.desk with
          dossiers := server.desk.dossiers ++ [⟨frame, handler, false, none⟩] } := by
  unfold dispatch
  split
  · simp
  · split
    · simp
    · split
      · simp
      · split
        · left
          split <;> simp
        · split
          · simp
          · rename_i id peeked
            split
            · simp
            · rename_i handler listed
              unfold spawnHandler
              split
              · exact Or.inl rfl
              · refine Or.inr ⟨id, handler, peeked, listed, ?_⟩
                simp [desk, notify, Invocation.dossier]

/-- Every step of the connection changes the desk at most once. -/
theorem step_desk (sound : server.book.Sound) (event : ServerEvent ν) (after : ServerConnection ν)
    (stepped : server.step registry codec event = some after) :
    server.Files registry codec event after.desk := by
  cases server.step_advances stepped with
  | dispatches frame rest reading =>
    have noted : (server.dispatchFrame frame rest).desk = ((server.notify
        { type := .messageTransferred, stream := frame.header.stream, inbound := true }).dispatch
          frame).desk := rfl
    rcases dispatch_desk (server.notify
      { type := .messageTransferred, stream := frame.header.stream, inbound := true }) frame with
      kept | ⟨id, handler, peeked, listed, filed⟩
    · rw [noted, kept]
      exact .kept
    · rw [noted, filed]
      exact .spawned frame rest id handler rfl reading peeked listed
  | leaves reading =>
    rw [server.endBatch_desk]
    exact .kept
  | acts acts => exact server.act_desk sound event after acts

end Steps

end ServerConnection

end Desks

end Rillnet
