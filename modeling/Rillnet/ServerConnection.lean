import Rillnet.ClientConnection

/-!
# The server connection

The members of the connection, its coroutines and one function per piece of code
that runs between two suspensions, with the transition function `step` as for the
client. `invocations` lists the handler coroutines ever spawned, never removed;
the map `operations` refers to their shared operations by position.

What a handler does is the application's business: once started it returns a
value of its response type or throws at any later step. A spawned coroutine may
start at once, so handlers may also run between the frames of one read; nothing
else does.

History is kept for the statements only: the frames dispatched and given to the
transport, the violations charged to the peer, the streams on which a second
request arrived too early, and for each invocation the position of its request
among the dispatched frames and of its reply among the accepted ones.
-/

namespace Rillnet

/-- A registered handler: the types it receives and returns, and which call of
`handle` registered it. -/
structure RequestHandler (τ : Type) where
  request : τ
  response : τ
  registration : Nat
deriving DecidableEq, Repr

/-- Where a handler coroutine stands: not started, in the application's handler,
suspended in `enqueue` with its response, or finished. -/
inductive HandlerStage where
  | spawned
  | handling
  | responding
  | finished
deriving DecidableEq, Repr

section Server

variable {τ : Type} [DecidableEq τ] {ν : τ → Type}

/-- One handler coroutine with its frame and its shared operation. -/
structure Invocation (ν : τ → Type) where
  frame : Frame
  handler : RequestHandler τ
  operation : Operation StreamId
  stage : HandlerStage := .spawned
  argument : Option (ν handler.request) := none
  inbound : Nat
  reply : Option Nat := none

/-- The members of the connection, its coroutines and its history. -/
structure ServerConnection (ν : τ → Type) where
  transportOpen : Bool := true
  writeQueue : WriteQueue
  decoder : FrameDecoder := {}
  handlers : AList (fun _ : MessageType => RequestHandler τ) := ∅
  operations : AList (fun _ : StreamId => Nat) := ∅
  terminalStreams : Finset StreamId := ∅
  activeHandlers : Nat := 0
  reading : Bool := true
  lifecycle : ConnectionState := .created
  closedNotified : Bool := false
  diagnostics : List DiagnosticsEvent := []
  invocations : List (Invocation ν) := []
  reader : Reader := .notStarted
  drains : Nat := 0
  shutdownEntered : Bool := false
  registrations : Nat := 0
  dispatched : List Frame := []
  sent : List Frame := []
  violations : List (StatusCode × String) := []
  duplicates : List StreamId := []

/-- What can happen next at a server connection. -/
inductive ServerEvent (ν : τ → Type) where
  | handle (request response : τ)
  | run
  | startWriter
  | startReader
  | received (bytes : Buffer)
  | endOfFile (closes : Bool)
  | readFailed (closes : Bool)
  | dispatchNext
  | startHandler (invocation : Nat)
  | handlerReturns (invocation : Nat) (type : τ) (value : ν type)
  | handlerThrows (invocation : Nat)
  | resumeEnqueue (invocation : Nat)
  | abortEnqueue (invocation : Nat) (message : String)
  | shutdown (expired : Bool)
  | drainTick (expired aborted : Bool)
  | resumeWriter
  | writeCompleted
  | writeFailed (what : String)

/-- A step of a handler coroutine. -/
def ServerEvent.isHandler : ServerEvent ν → Bool
  | .startHandler _ | .handlerReturns _ _ _ | .handlerThrows _ => true
  | _ => false

/-- The stream of the request a handler was called for. -/
def Invocation.stream (invocation : Invocation ν) : StreamId := invocation.frame.header.stream

namespace ServerConnection

/-- The constructor. -/
def create (limits : WriteQueueLimits) : ServerConnection ν where
  writeQueue := WriteQueue.create limits

/-- Tell the observers of the connection. -/
def notify (server : ServerConnection ν) (event : DiagnosticsEvent) : ServerConnection ν :=
  { server with diagnostics := server.diagnostics ++ [event] }

/-- Write one handler coroutine. -/
def modifyInvocation (server : ServerConnection ν) (invocation : Nat)
    (change : Invocation ν → Invocation ν) : ServerConnection ν :=
  { server with invocations := server.invocations.modify invocation change }

/-- Call a method of an invocation's operation. The completion handler reports a
committed result. -/
def callOperation (server : ServerConnection ν) (invocation : Nat)
    (call : Operation StreamId → Operation StreamId × Bool) : ServerConnection ν × Bool :=
  match server.invocations[invocation]? with
  | none => (server, false)
  | some object =>
    let outcome := call object.operation
    ({ server with
      invocations := server.invocations.set invocation { object with operation := outcome.1 }
      diagnostics := server.diagnostics ++ (Operation.notified outcome).toList.map fun report =>
        ClientConnection.completionEvent report.1 report.2 }, outcome.2)

/-- Offer an error frame to the queue once; its answer is not looked at. -/
def sendOperationError (server : ServerConnection ν) (stream : StreamId) (status : StatusCode) :
    ServerConnection ν :=
  { server with writeQueue := (server.writeQueue.tryEnqueue (makeErrorFrame stream status)).1 }

/-- Remember the stream of a frame that ends it. -/
def markTerminal (server : ServerConnection ν) (frame : Frame) : ServerConnection ν :=
  if hasFlag frame.header.flags .endOfStream then
    { server with terminalStreams := insert frame.header.stream server.terminalStreams }
  else server

/-- Report the end of the connection, once. -/
def notifyClosed (server : ServerConnection ν) : ServerConnection ν :=
  if server.closedNotified then server
  else
    { server with closedNotified := true }.notify
      { type := .connectionClosed, status := .connectionClosed, message := "connection closed" }

/-- Move the lifecycle, if the table of transitions has the move. -/
def transition (server : ServerConnection ν) (next : ConnectionState) : ServerConnection ν :=
  { server with lifecycle := (server.lifecycle.transition next).1 }

/-- The peer broke the protocol. -/
def failConnection (server : ServerConnection ν) (status : StatusCode) (message : String) :
    ServerConnection ν :=
  let reported :=
    if statusCategory status = .protocol then
      server.notify { type := .protocolError, status := status, inbound := true, message := message }
    else server
  { reported with
    transportOpen := false
    violations := reported.violations ++ [(status, message)] }

/-- The queue is closed once reading has ended and no handler is active. -/
def closeQueueWhenIdle (server : ServerConnection ν) : ServerConnection ν :=
  if !server.reading && decide (server.activeHandlers = 0) then
    { server with writeQueue := server.writeQueue.close }
  else server

/-- Fail the operations of a lost connection, in the order of the map. -/
def failOperationsOnConnectionClose (server : ServerConnection ν) : ServerConnection ν :=
  server.operations.entries.foldl (fun server entry =>
    ((server.callOperation entry.2 Operation.requestCancellation).1.callOperation entry.2
      fun operation => operation.fail .connectionClosed
        "connection closed while processing a request").1) server

/-- Draining, closing and closed connections serve no new request. -/
def isShuttingDown (server : ServerConnection ν) : Bool :=
  decide (server.lifecycle = .draining) || decide (server.lifecycle = .closing) ||
    decide (server.lifecycle = .closed)

/-- Start an operation for a request and spawn its handler, unless the stream has
an operation already. -/
def spawnHandler (server : ServerConnection ν) (frame : Frame) (handler : RequestHandler τ) :
    ServerConnection ν :=
  if (server.operations.lookup frame.header.stream).isSome then
    { server with
      transportOpen := false
      duplicates := server.duplicates ++ [frame.header.stream] }
  else
    let started := server.notify { type := .requestStarted, stream := frame.header.stream }
    { started with
      operations := server.operations.insert frame.header.stream server.invocations.length
      activeHandlers := sizeAdd server.activeHandlers 1
      invocations := server.invocations ++ [{
        frame := frame
        handler := handler
        operation := ({ stream := frame.header.stream
                        completionHandler := some frame.header.stream } :
          Operation StreamId).activate.1
        inbound := server.dispatched.length }] }

/-- Route one inbound frame. -/
def dispatch (server : ServerConnection ν) (frame : Frame) : ServerConnection ν :=
  if server.isShuttingDown then
    (server.sendOperationError frame.header.stream .connectionClosed).markTerminal frame
  else if frame.header.type ≠ .request then
    server.failConnection .malformedFrame "server received a non-request frame"
  else if frame.header.stream ∈ server.terminalStreams then
    server.failConnection .malformedFrame "duplicate terminal frame"
  else if hasFlag frame.header.flags .cancel then
    match server.operations.lookup frame.header.stream with
    | some invocation =>
      (server.callOperation invocation fun operation =>
        operation.cancel "operation cancelled by peer").1.markTerminal frame
    | none => server.failConnection .unknownStream "cancellation for an unknown stream"
  else
    match peekMessageType frame.payload with
    | none => (server.sendOperationError frame.header.stream .decodeError).markTerminal frame
    | some messageType =>
      match server.handlers.lookup messageType with
      | none =>
        (server.sendOperationError frame.header.stream .unknownMessageType).markTerminal frame
      | some handler => server.spawnHandler frame handler

/-- The end of the read loop. -/
def finishReading (server : ServerConnection ν) (lost : Bool) : ServerConnection ν :=
  let failed := if lost then server.failOperationsOnConnectionClose else server
  ({ failed with reading := false, reader := .finished }.closeQueueWhenIdle.transition
    .closed).notifyClosed

/-- The test of the read loop: begin another read, or leave. -/
def continueReading (server : ServerConnection ν) : ServerConnection ν :=
  if server.transportOpen then { server with reader := .awaiting } else server.finishReading false

/-- After the frames of one read: a malformed header ends the connection. -/
def endBatch (server : ServerConnection ν) : ServerConnection ν :=
  match server.decoder.error with
  | some error =>
    let status := statusForFrameValidation error
    let reported := server.notify
      { type := .protocolError, status := status, inbound := true,
        message := frameValidationMessage error }
    ({ reported with
      transportOpen := false
      violations := reported.violations ++ [(status, frameValidationMessage error)] } :
        ServerConnection ν).finishReading false
  | none => server.continueReading

/-- Bytes arrived: decode them and start the loop over the frames found. -/
def received (server : ServerConnection ν) (bytes : Buffer) : ServerConnection ν :=
  let (decoder, frames) := server.decoder.push bytes
  { server with decoder := decoder, reader := .dispatching frames }.notify
    { type := .bytesTransferred, bytes := bytes.length, inbound := true }

/-- One iteration of the loop over frames; it is left early once the transport
is closed. -/
def dispatchFrame (server : ServerConnection ν) (frame : Frame) (rest : List Frame) :
    ServerConnection ν :=
  let noted := server.notify
    { type := .messageTransferred, stream := frame.header.stream, inbound := true }
  let routed := noted.dispatch frame
  { routed with
    dispatched := routed.dispatched ++ [frame]
    reader := .dispatching (if routed.transportOpen then rest else []) }

/-- The end of a handler coroutine, however it came about. -/
def finishHandler (server : ServerConnection ν) (invocation : Nat) : ServerConnection ν :=
  match server.invocations[invocation]? with
  | none => server
  | some object =>
    { server.modifyInvocation invocation (fun object => { object with stage := .finished }) with
      operations := server.operations.erase object.stream
      activeHandlers := sizeSub server.activeHandlers 1 }.closeQueueWhenIdle

/-- Continue a handler coroutine after an offer of its response to the queue: it
stays suspended without a result, and ignores the result otherwise. -/
def afterOffer (server : ServerConnection ν) (invocation : Nat)
    (offered : WriteQueue × Option WriteResult) : ServerConnection ν :=
  let queued := { server with writeQueue := offered.1 }
  match offered.2 with
  | none => queued.modifyInvocation invocation fun object => { object with stage := .responding }
  | some result =>
    (queued.modifyInvocation invocation fun object =>
      { object with
        reply := if result.ok then some (offered.1.accepted.length - 1) else object.reply
      }).finishHandler invocation

section Handlers

variable (registry : MessageRegistry τ) (codec : Codec τ ν)

/-- A handler coroutine starts: the request is decoded and given to the
application's handler, or answered with an error. -/
def startHandler (server : ServerConnection ν) (invocation : Nat) (object : Invocation ν) :
    ServerConnection ν :=
  let request := decodeMessage registry codec object.handler.request object.frame
  if request.ok then
    { server with invocations := server.invocations.set invocation { object with
      stage := .handling
      argument := request.value } }
  else
    ((server.callOperation invocation fun operation =>
      operation.fail request.status request.message).1.sendOperationError object.stream
        request.status).finishHandler invocation

/-- The application's handler returned: the response is encoded, the operation
completed and the frame offered to the queue. -/
def handlerReturns (server : ServerConnection ν) (invocation : Nat) (object : Invocation ν)
    (type : τ) (value : ν type) : ServerConnection ν :=
  match (encodeMessage registry codec type value object.stream .response).frame with
  | none => server.finishHandler invocation
  | some frame =>
    let (completed, committed) := server.callOperation invocation
      fun operation => operation.complete "response ready"
    if committed then
      completed.afterOffer invocation (completed.writeQueue.enqueue invocation { frame with
        header := { frame.header with flags := frame.header.flags ||| .endOfStream } })
    else completed.finishHandler invocation

/-- Register a handler for a request type; types without a wire identifier are
ignored. -/
def handle (server : ServerConnection ν) (request response : τ) : ServerConnection ν :=
  match registry.messageType request with
  | none => server
  | some id =>
    { server with
      handlers := server.handlers.insert id ⟨request, response, server.registrations⟩
      registrations := server.registrations + 1 }

end Handlers

/-- The first lines of `shutdown`: a connection that never ran is taken through its start,
and an active one begins to drain. -/
def beginShutdown (server : ServerConnection ν) : ServerConnection ν :=
  let active :=
    if server.lifecycle = .created then (server.transition .accepting).transition .active
    else server
  if active.lifecycle = .active then active.transition .draining else active

/-- The tail of `shutdown` after its waiting loop. -/
def finishShutdown (server : ServerConnection ν) : ServerConnection ν :=
  let failed :=
    if server.activeHandlers = 0 then server else server.failOperationsOnConnectionClose
  ({ failed with transportOpen := false }.transition .closed).notifyClosed

/-- The test of the waiting loop of `shutdown`. -/
def drain (server : ServerConnection ν) (expired : Bool) : ServerConnection ν :=
  if decide (server.activeHandlers = 0) || expired then server.finishShutdown
  else { server with drains := server.drains + 1 }

/-- A call of `shutdown` up to its first suspension. The flag says whether the deadline is
over at the first poll. -/
def shutdown (server : ServerConnection ν) (expired : Bool) : ServerConnection ν :=
  { server with shutdownEntered := true }.beginShutdown.drain expired

/-- A suspended `shutdown` is resumed by its one-millisecond timer. -/
def drainTick (server : ServerConnection ν) (expired aborted : Bool) : ServerConnection ν :=
  let resumed := { server with drains := server.drains - 1 }
  if aborted then resumed.finishShutdown else resumed.drain expired

/-- The connection is started: the first start opens it, and the read loop is spawned. -/
def run (server : ServerConnection ν) : ServerConnection ν :=
  let opened :=
    if server.lifecycle = .created then
      ((server.transition .accepting).transition .active).notify { type := .connectionOpened }
    else server
  { opened with reader := .spawned }

/-- The writer gives the next frame to the transport. Bytes given to a closed
transport go nowhere. -/
def resumeWriter (server : ServerConnection ν) : Option (ServerConnection ν) :=
  (server.writeQueue.resumeRun).map fun queue =>
    { server with
      writeQueue := queue
      sent := if server.transportOpen then server.sent ++ server.writeQueue.inHand else server.sent }

/-- A completed write is reported to the observer. -/
def writeCompleted (server : ServerConnection ν) : Option (ServerConnection ν) :=
  server.writeQueue.writeCompleted.map fun (queue, frame) =>
    ({ server with writeQueue := queue }.notify
      { type := .bytesTransferred, bytes := (encodeFrame frame).length }).notify
        { type := .messageTransferred, stream := frame.header.stream }

section Step

variable (registry : MessageRegistry τ) (codec : Codec τ ν)

/-- The events other than the loop over frames. -/
def act (server : ServerConnection ν) : ServerEvent ν → Option (ServerConnection ν)
  | .handle request response => some (server.handle registry request response)
  | .run => if server.reader = .notStarted then some server.run else none
  | .startWriter =>
    if server.reader = .notStarted then none
    else server.writeQueue.run.map fun queue => { server with writeQueue := queue }
  | .startReader =>
    -- `run` starts the writer first
    if server.reader = .spawned ∧ server.writeQueue.writer ≠ .notStarted then
      some server.continueReading
    else none
  | .received bytes =>
    if server.reader = .awaiting ∧ 0 < bytes.length ∧ bytes.length ≤ 4096 then
      some (server.received bytes)
    else none
  | .endOfFile closes =>
    if server.reader = .awaiting then
      let usable := server.transportOpen && !closes
      some ({ server with transportOpen := usable }.finishReading !usable)
    else none
  | .readFailed closes =>
    if server.reader = .awaiting then
      some ({ server with transportOpen := server.transportOpen && !closes }.finishReading true)
    else none
  | .dispatchNext => none
  | .startHandler invocation =>
    match server.invocations[invocation]? with
    | some object =>
      if object.stage = .spawned then some (server.startHandler registry codec invocation object)
      else none
    | none => none
  | .handlerReturns invocation type value =>
    match server.invocations[invocation]? with
    | some object =>
      if object.stage = .handling ∧ type = object.handler.response then
        some (server.handlerReturns registry codec invocation object type value)
      else none
    | none => none
  | .handlerThrows invocation =>
    match server.invocations[invocation]? with
    | some object =>
      if object.stage = .handling then some (server.finishHandler invocation) else none
    | none => none
  | .resumeEnqueue invocation =>
    (server.writeQueue.resumeEnqueue invocation).map (server.afterOffer invocation)
  | .abortEnqueue invocation message =>
    (server.writeQueue.abortEnqueue invocation message).map fun queue =>
      { server with writeQueue := queue }
  | .shutdown expired => some (server.shutdown expired)
  | .drainTick expired aborted =>
    if server.drains = 0 then none else some (server.drainTick expired aborted)
  | .resumeWriter => server.resumeWriter
  | .writeCompleted => server.writeCompleted
  | .writeFailed what =>
    (server.writeQueue.writeFailed what).map fun queue =>
      { server with writeQueue := queue, transportOpen := false }

/-- One step of the connection. While the frames of a read are being dispatched
only handlers run beside the loop. -/
def step (server : ServerConnection ν) (event : ServerEvent ν) : Option (ServerConnection ν) :=
  match server.reader, event with
  | .dispatching (frame :: rest), .dispatchNext => some (server.dispatchFrame frame rest)
  | .dispatching [], .dispatchNext => some server.endBatch
  | .dispatching _, event => if event.isHandler then server.act registry codec event else none
  | _, event => server.act registry codec event

end Step

end ServerConnection

end Server

end Rillnet
