import Rillnet.WriteQueue
import Rillnet.FrameDecoder
import Rillnet.StreamIdAllocator
import Rillnet.Operation
import Rillnet.Messages
import Rillnet.Diagnostics

/-!
# The client connection

The members of the connection, the coroutines suspended in it, and one function
per piece of code that runs between two suspensions. `step` is the transition
function: an event names the coroutine or callback that runs next, or what the
transport or a timer reports; it is absent where the event cannot happen.

`requests` is the heap of shared `PendingRequest` objects, never freed; the map
`pending` and the handles refer to them by position. A request carries, beside
the members of the source, the coroutine of `start_request` or the handle that
owns it and the waits suspended on it. Waits are numbered in the order of the
calls of `async_wait`. Whether a deadline has passed is part of the event.

The loop over the frames of one read runs without suspension; it is cut into one
step per frame, and no other event happens until it is over. The hooks of the
application that receive diagnostics do not call back into the connection.

History is kept for the statements only: the frames dispatched, the violations
charged to the peer, the calls of `send_cancellation`, the results committed, the
frames delivered to a request and the values its waits returned.
-/

namespace Rillnet

/-- The timer of a request: its handler runs after it expired, or with an error
after it was cancelled while still waiting. -/
inductive Timer where
  | idle
  | waiting
  | expired
  | cancelled
  | done
deriving DecidableEq, Repr

/-- Cancelling reaches only a wait that has not expired yet. -/
def Timer.cancel : Timer → Timer
  | .waiting => .cancelled
  | timer => timer

/-- Who holds a request besides the map: the suspended coroutine that started
it, the caller's handle, or nobody. -/
inductive Owner where
  | starting
  | handle
  | released
  | refused (status : StatusCode) (message : String)
deriving DecidableEq, Repr

/-- Where the read loop stands: suspended in a read, in the loop over the frames
of one read, or outside. -/
inductive Reader where
  | notStarted
  | spawned
  | awaiting
  | dispatching (frames : List Frame)
  | finished
deriving DecidableEq, Repr

section Client

variable {τ : Type} [DecidableEq τ] {ν : τ → Type}

/-- A shared `PendingRequest`, with the suspended coroutines that use it. -/
structure PendingRequest (ν : τ → Type) where
  channel : Channel Frame Nat
  timer : Timer := .idle
  operation : Operation StreamId
  removed : Bool := false
  streamReleased : Bool := false
  response : τ
  deadline : Option Deadline
  owner : Owner := .starting
  waits : Nat := 0
  resumed : List (Nat × Option Frame) := []
  requestIndex : Option Nat := none
  settled : List OperationResult := []
  delivered : List (Nat × Frame) := []
  returned : List (Nat × DecodeResult (ν response)) := []

/-- The members of the connection, its coroutines and its history. -/
structure ClientConnection (ν : τ → Type) where
  transportOpen : Bool := true
  writeQueue : WriteQueue
  streamIds : StreamIdAllocator
  decoder : FrameDecoder := {}
  pending : AList (fun _ : StreamId => Nat) := ∅
  terminalStreams : Finset StreamId := ∅
  lifecycle : ConnectionState := .created
  closedNotified : Bool := false
  diagnostics : List DiagnosticsEvent := []
  requests : List (PendingRequest ν) := []
  reader : Reader := .notStarted
  drains : Nat := 0
  shutdownEntered : Bool := false
  refusals : List (StatusCode × String) := []
  dispatched : List Frame := []
  sent : List Frame := []
  violations : List (StatusCode × String) := []
  cancellations : List StreamId := []

/-- What can happen next at a client connection. -/
inductive ClientEvent (ν : τ → Type) where
  | run
  | startWriter
  | startReader
  | startRequest (type : τ) (value : ν type) (response : τ) (deadline : Option Deadline)
  | resumeEnqueue (request : Nat)
  | abortEnqueue (request : Nat) (message : String)
  | cancel (request : Nat) (message : String)
  | timerExpires (request : Nat)
  | timerHandler (request : Nat)
  | destroyHandle (request : Nat)
  | asyncWait (request : Nat)
  | resumeWait (request : Nat) (wait : Nat)
  | abortWait (request : Nat) (wait : Nat)
  | received (bytes : Buffer)
  | endOfFile (closes : Bool)
  | readFailed (closes : Bool)
  | dispatchNext
  | shutdown (expired : Bool)
  | drainTick (expired aborted : Bool)
  | resumeWriter
  | writeCompleted
  | writeFailed (what : String)

namespace PendingRequest

/-- The constructor: a channel for one frame and an active operation whose
completion handler reports on its stream. -/
def create (stream : StreamId) (response : τ) (deadline : Option Deadline) : PendingRequest ν where
  channel := Channel.fresh 1
  operation := ({ stream := stream, completionHandler := some stream } :
    Operation StreamId).activate.1
  response := response
  deadline := deadline

/-- The stream a request was started on. -/
def stream (request : PendingRequest ν) : StreamId := request.operation.stream

/-- Close the channel; the waits suspended on it are resumed with an error. -/
def closeChannel (request : PendingRequest ν) : PendingRequest ν :=
  { request with
    channel := request.channel.close.1
    resumed := request.resumed ++ request.channel.close.2.map fun wait => (wait, none) }

/-- Send a dispatched frame, whose position is recorded, into the channel. -/
def trySend (request : PendingRequest ν) (position : Nat) (frame : Frame) : PendingRequest ν :=
  match request.channel.trySend frame with
  | none => request
  | some (channel, receiver) =>
    { request with
      channel := channel
      resumed := request.resumed ++ receiver.toList.map fun wait => (wait, some frame)
      delivered := request.delivered ++ [(position, frame)] }

/-- A call of `async_wait` begins to receive. -/
def asyncWait (request : PendingRequest ν) : PendingRequest ν :=
  let (channel, reception) := request.channel.receive request.waits
  let posted : List (Nat × Option Frame) :=
    match reception with
    | .suspended => []
    | .message frame => [(request.waits, some frame)]
    | .closed => [(request.waits, none)]
  { request with
    channel := channel
    waits := request.waits + 1
    resumed := request.resumed ++ posted }

/-- The value a resumed wait returns. -/
def waitOutcome (registry : MessageRegistry τ) (codec : Codec τ ν) (request : PendingRequest ν) :
    Option Frame → DecodeResult (ν request.response)
  | some frame => decodeMessage registry codec request.response frame
  | none =>
    match request.operation.result with
    | some result => .failure result.status result.message
    | none => .failure .connectionClosed "connection closed while awaiting a response"

/-- Start the deadline timer of a started request, if it has a deadline. -/
def startTimer (request : PendingRequest ν) : PendingRequest ν :=
  match request.deadline with
  | none => request
  | some deadline =>
    { request with operation := (request.operation.setDeadline deadline).1, timer := .waiting }

end PendingRequest

namespace ClientConnection

/-- The constructor. -/
def create (limits : WriteQueueLimits) (maximumStreamId : UInt64) : ClientConnection ν where
  writeQueue := WriteQueue.create limits
  streamIds := StreamIdAllocator.create .client maximumStreamId

/-- Tell the observers of the connection. -/
def notify (client : ClientConnection ν) (event : DiagnosticsEvent) : ClientConnection ν :=
  { client with diagnostics := client.diagnostics ++ [event] }

/-- Write the shared object of one request. -/
def modifyRequest (client : ClientConnection ν) (request : Nat)
    (change : PendingRequest ν → PendingRequest ν) : ClientConnection ν :=
  { client with requests := client.requests.modify request change }

/-- The event a request's completion handler reports. -/
def completionEvent (stream : StreamId) (result : OperationResult) : DiagnosticsEvent where
  type :=
    if result.status = .cancelled then .cancellation
    else if result.status = .timeoutError then .timeout
    else .requestCompleted
  stream := stream
  status := result.status
  message := result.message

/-- Call one of the finishing methods of a request's operation. The completion
handler reports the committed result. -/
def finishOperation (client : ClientConnection ν) (request : Nat)
    (call : Operation StreamId → Operation StreamId × Bool) : ClientConnection ν × Bool :=
  match client.requests[request]? with
  | none => (client, false)
  | some object =>
    let outcome := call object.operation
    let committed := (Operation.notified outcome).toList
    ({ client with
      requests := client.requests.set request { object with
        operation := outcome.1
        settled := object.settled ++ committed.map Prod.snd }
      diagnostics := client.diagnostics ++
        committed.map fun report => completionEvent report.1 report.2 }, outcome.2)

/-- `std::unordered_map::emplace`: an existing entry stays. -/
def emplacePending (client : ClientConnection ν) (stream : StreamId) (request : Nat) :
    ClientConnection ν :=
  if (client.pending.lookup stream).isSome then client
  else { client with pending := client.pending.insert stream request }

/-- Take a request out of the map, if the map still holds this object, and give
its stream back at most once. -/
def cleanupPending (client : ClientConnection ν) (request : Nat) (releaseStream : Bool) :
    ClientConnection ν :=
  match client.requests[request]? with
  | none => client
  | some object =>
    let unlisted :=
      if object.removed then client
      else
        { client with
          requests := client.requests.set request
            { object with removed := true, timer := object.timer.cancel }
          pending :=
            if client.pending.lookup object.stream = some request then
              client.pending.erase object.stream
            else client.pending }
    if releaseStream && !object.streamReleased then
      { unlisted.modifyRequest request fun object => { object with streamReleased := true } with
        streamIds := unlisted.streamIds.release object.stream }
    else unlisted

/-- The frame that asks the peer to stop working on a stream. -/
def cancellationFrame (stream : StreamId) : Frame where
  header := {
    type := .request
    flags := .cancel ||| .endOfStream
    stream := stream
    payloadSize := 0 }

/-- Offer a cancellation frame to the queue once; its answer is not looked at. -/
def sendCancellation (client : ClientConnection ν) (stream : StreamId) : ClientConnection ν :=
  { client with
    writeQueue := (client.writeQueue.tryEnqueue (cancellationFrame stream)).1
    cancellations := client.cancellations ++ [stream] }

/-- The stream of the object a handle shares. -/
def streamOf (client : ClientConnection ν) (request : Nat) : StreamId :=
  (client.requests[request]?.map PendingRequest.stream).getD ⟨0⟩

/-- Send the cancellation, close the channel and clean up: the tail shared by a
cancellation and a timeout. -/
def abandonPending (client : ClientConnection ν) (request : Nat) : ClientConnection ν :=
  ((client.sendCancellation (client.streamOf request)).modifyRequest request
    PendingRequest.closeChannel).cleanupPending request false

/-- The deadline of a request passed: an operation that is still active is given up. -/
def timeoutPending (client : ClientConnection ν) (request : Nat) : ClientConnection ν :=
  let (finished, committed) := client.finishOperation request
    fun operation => operation.timeout "operation deadline exceeded"
  if committed then finished.abandonPending request else finished

/-- The application cancels a request; the answer says whether it came in time. -/
def cancelPending (client : ClientConnection ν) (request : Nat) (message : String) :
    ClientConnection ν × Bool :=
  let (finished, committed) := client.finishOperation request
    fun operation => operation.cancel message
  if committed then (finished.abandonPending request, true) else (finished, false)

/-- Whether the operation of a request is over. A handle without an object counts as over. -/
def isTerminal (client : ClientConnection ν) (request : Nat) : Bool :=
  (client.requests[request]?.map fun object => object.operation.isTerminal).getD true

/-- A handle is destroyed: an active operation is cancelled at the peer, and in any case
the entry goes and the stream is given back. -/
def discardPending (client : ClientConnection ν) (request : Nat) : ClientConnection ν :=
  let discarded :=
    if client.isTerminal request then client
    else
      ((client.finishOperation request
        fun operation => operation.cancel "operation handle released").1.sendCancellation
          (client.streamOf request)).modifyRequest request PendingRequest.closeChannel
  discarded.cleanupPending request true

/-- Fail one request, close its channel and clean up. -/
def failRequest (client : ClientConnection ν) (request : Nat) (status : StatusCode)
    (message : String) (releaseStream : Bool) : ClientConnection ν :=
  ((client.finishOperation request fun operation => operation.fail status message).1.modifyRequest
    request PendingRequest.closeChannel).cleanupPending request releaseStream

/-- The loop of `fail_pending`: the first entry of the map, until it is empty. -/
def failPendingLoop (status : StatusCode) (message : String) :
    Nat → ClientConnection ν → ClientConnection ν
  | 0, client => client
  | fuel + 1, client =>
    match client.pending.entries.head? with
    | none => client
    | some entry => failPendingLoop status message fuel (client.failRequest entry.2 status message false)

/-- Fail every entry of the map. Each round takes one entry, so as many rounds as there
are entries are enough. -/
def failPending (client : ClientConnection ν) (status : StatusCode) (message : String) :
    ClientConnection ν :=
  failPendingLoop status message client.pending.entries.length client

/-- Report the end of the connection, once. -/
def notifyClosed (client : ClientConnection ν) : ClientConnection ν :=
  if client.closedNotified then client
  else
    { client with closedNotified := true }.notify
      { type := .connectionClosed, status := .connectionClosed, message := "connection closed" }

/-- Move the lifecycle, if the table of transitions has the move. -/
def transition (client : ClientConnection ν) (next : ConnectionState) : ClientConnection ν :=
  { client with lifecycle := (client.lifecycle.transition next).1 }

/-- The peer broke the protocol. -/
def failConnection (client : ClientConnection ν) (status : StatusCode) (message : String) :
    ClientConnection ν :=
  let reported :=
    if statusCategory status = .protocol then
      client.notify { type := .protocolError, status := status, inbound := true, message := message }
    else client
  let failed := reported.failPending status message
  { failed with
    transportOpen := false
    violations := failed.violations ++ [(status, message)] }

/-- Remember the stream of a frame that ends it. -/
def markTerminal (client : ClientConnection ν) (frame : Frame) : ClientConnection ν :=
  if hasFlag frame.header.flags .endOfStream then
    { client with terminalStreams := insert frame.header.stream client.terminalStreams }
  else client

/-- A response completes its request and is sent into the request's channel. -/
def deliver (client : ClientConnection ν) (request : Nat) (frame : Frame) : ClientConnection ν :=
  ((client.modifyRequest request fun object =>
    { object with timer := object.timer.cancel }.trySend client.dispatched.length frame
    ).cleanupPending request true).markTerminal frame

/-- Route one inbound frame. -/
def dispatch (client : ClientConnection ν) (frame : Frame) : ClientConnection ν :=
  if frame.header.type ≠ .response then
    client.failConnection .malformedFrame "client received a non-response frame"
  else
    match client.pending.lookup frame.header.stream with
    | none => client.failConnection .unknownStream "response received for an unknown stream"
    | some request =>
      if frame.header.stream ∈ client.terminalStreams then
        client.failConnection .malformedFrame "duplicate terminal frame"
      else if hasFlag frame.header.flags .cancel then
        (client.cancelPending request "operation cancelled by peer").1.markTerminal frame
      else if hasFlag frame.header.flags .error then
        match decodeErrorStatus frame with
        | none => client.failConnection .malformedFrame "malformed protocol error payload"
        | some status =>
          (client.failRequest request status "peer rejected the operation" true).markTerminal frame
      else
        let (completed, committed) := client.finishOperation request
          fun operation => operation.complete "response received"
        if committed then completed.deliver request frame
        else completed.failConnection .malformedFrame "duplicate terminal frame"

/-- The end of the read loop. -/
def finishReading (client : ClientConnection ν) : ClientConnection ν :=
  let failed := client.failPending .connectionClosed "connection closed while awaiting a response"
  ({ failed with writeQueue := failed.writeQueue.close, reader := .finished }.transition
    .closed).notifyClosed

/-- The test of the read loop: begin another read, or leave. -/
def continueReading (client : ClientConnection ν) : ClientConnection ν :=
  if client.transportOpen then { client with reader := .awaiting } else client.finishReading

/-- After the frames of one read: a malformed header ends the connection. -/
def endBatch (client : ClientConnection ν) : ClientConnection ν :=
  match client.decoder.error with
  | some error =>
    (client.failConnection (statusForFrameValidation error)
      (frameValidationMessage error)).finishReading
  | none => client.continueReading

/-- Bytes arrived: decode them and start the loop over the frames found. -/
def received (client : ClientConnection ν) (bytes : Buffer) : ClientConnection ν :=
  let (decoder, frames) := client.decoder.push bytes
  { client with decoder := decoder, reader := .dispatching frames }.notify
    { type := .bytesTransferred, bytes := bytes.length, inbound := true }

/-- One iteration of the loop over frames; it is left early once the transport
is closed. -/
def dispatchFrame (client : ClientConnection ν) (frame : Frame) (rest : List Frame) :
    ClientConnection ν :=
  let noted := client.notify
    { type := .messageTransferred, stream := frame.header.stream, inbound := true }
  let routed := noted.dispatch frame
  { routed with
    dispatched := routed.dispatched ++ [frame]
    reader := .dispatching (if routed.transportOpen then rest else []) }

/-- Draining, closing and closed connections accept no new request. -/
def isShuttingDown (client : ClientConnection ν) : Bool :=
  decide (client.lifecycle = .draining) || decide (client.lifecycle = .closing) ||
    decide (client.lifecycle = .closed)

/-- The rest of `start_request` once the enqueue has a result. -/
def finishStart (client : ClientConnection ν) (request : Nat) (sent : WriteResult) :
    ClientConnection ν :=
  if sent.ok then
    client.modifyRequest request fun object =>
      { object with
        owner := .handle
        requestIndex := some (client.writeQueue.accepted.length - 1) }.startTimer
  else
    (client.failRequest request sent.status sent.message true).modifyRequest request fun object =>
      { object with owner := .refused sent.status sent.message }

/-- Continue `start_request` after an offer to the queue: it stays suspended
without a result. -/
def afterOffer (client : ClientConnection ν) (request : Nat)
    (offered : WriteQueue × Option WriteResult) : ClientConnection ν :=
  match offered.2 with
  | none => { client with writeQueue := offered.1 }
  | some sent => { client with writeQueue := offered.1 }.finishStart request sent

section Calls

variable (registry : MessageRegistry τ) (codec : Codec τ ν)

/-- `start_request` up to its first suspension. An encoding failure returns
without giving the allocated stream back. -/
def startRequest (client : ClientConnection ν) (type : τ) (value : ν type) (response : τ)
    (deadline : Option Deadline) : ClientConnection ν :=
  if client.isShuttingDown then
    { client with
      refusals := client.refusals ++ [(.connectionClosed, "connection is shutting down")] }
  else
    let (streamIds, allocation) := client.streamIds.allocate
    let allocated := { client with streamIds := streamIds }
    match allocation.stream with
    | none =>
      { allocated with
        refusals := client.refusals ++ [(allocation.status, "stream identifiers exhausted")] }
    | some stream =>
      let encoded := encodeMessage registry codec type value stream
      match encoded.frame with
      | none =>
        { allocated with refusals := client.refusals ++ [(encoded.status, encoded.message)] }
      | some frame =>
        let request := client.requests.length
        let registered := ({ allocated with
          requests := client.requests ++ [PendingRequest.create stream response deadline]
          }.emplacePending stream request).notify { type := .requestStarted, stream := stream }
        registered.afterOffer request (registered.writeQueue.enqueue request frame)

/-- A wait resumed with a frame or an error cleans up and returns. -/
def resumeWait (client : ClientConnection ν) (request wait : Nat) (posted : Option Frame) :
    ClientConnection ν :=
  ((client.modifyRequest request fun object =>
    { object with resumed := object.resumed.erase (wait, posted) }).cleanupPending request
      true).modifyRequest request fun object =>
        { object with
          returned := object.returned ++ [(wait, object.waitOutcome registry codec posted)] }

end Calls

/-- The first lines of `shutdown`: a connection that never ran is taken through its start,
and an active one begins to drain. -/
def beginShutdown (client : ClientConnection ν) : ClientConnection ν :=
  let active :=
    if client.lifecycle = .created then (client.transition .connecting).transition .active
    else client
  if active.lifecycle = .active then active.transition .draining else active

/-- The tail of `shutdown` after its waiting loop. -/
def finishShutdown (client : ClientConnection ν) : ClientConnection ν :=
  let failed :=
    if client.pending.entries.isEmpty then client
    else client.failPending .connectionClosed "connection drain period expired"
  ({ failed with transportOpen := false }.transition .closed).notifyClosed

/-- The test of the waiting loop of `shutdown`. -/
def drain (client : ClientConnection ν) (expired : Bool) : ClientConnection ν :=
  if client.pending.entries.isEmpty || expired then client.finishShutdown
  else { client with drains := client.drains + 1 }

/-- A call of `shutdown` up to its first suspension. The flag says whether the deadline is
over at the first poll. -/
def shutdown (client : ClientConnection ν) (expired : Bool) : ClientConnection ν :=
  { client with shutdownEntered := true }.beginShutdown.drain expired

/-- A suspended `shutdown` is resumed by its one-millisecond timer. -/
def drainTick (client : ClientConnection ν) (expired aborted : Bool) : ClientConnection ν :=
  let resumed := { client with drains := client.drains - 1 }
  if aborted then resumed.finishShutdown else resumed.drain expired

/-- The connection is started: the first start opens it, and the read loop is spawned. -/
def run (client : ClientConnection ν) : ClientConnection ν :=
  let opened :=
    if client.lifecycle = .created then
      ((client.transition .connecting).transition .active).notify { type := .connectionOpened }
    else client
  { opened with reader := .spawned }

/-- The writer gives the next frame to the transport. Bytes given to a closed
transport go nowhere. -/
def resumeWriter (client : ClientConnection ν) : Option (ClientConnection ν) :=
  (client.writeQueue.resumeRun).map fun queue =>
    { client with
      writeQueue := queue
      sent := if client.transportOpen then client.sent ++ client.writeQueue.inHand else client.sent }

/-- A completed write is reported to the observer. -/
def writeCompleted (client : ClientConnection ν) : Option (ClientConnection ν) :=
  client.writeQueue.writeCompleted.map fun (queue, frame) =>
    ({ client with writeQueue := queue }.notify
      { type := .bytesTransferred, bytes := (encodeFrame frame).length }).notify
        { type := .messageTransferred, stream := frame.header.stream }

section Step

variable (registry : MessageRegistry τ) (codec : Codec τ ν)

/-- The events other than the loop over frames. -/
def act (client : ClientConnection ν) : ClientEvent ν → Option (ClientConnection ν)
  | .run => if client.reader = .notStarted then some client.run else none
  | .startWriter =>
    if client.reader = .notStarted then none
    else client.writeQueue.run.map fun queue => { client with writeQueue := queue }
  | .startReader =>
    -- `run` starts the writer first
    if client.reader = .spawned ∧ client.writeQueue.writer ≠ .notStarted then
      some client.continueReading
    else none
  | .startRequest type value response deadline =>
    some (client.startRequest registry codec type value response deadline)
  | .resumeEnqueue request =>
    (client.writeQueue.resumeEnqueue request).map (client.afterOffer request)
  | .abortEnqueue request message =>
    (client.writeQueue.abortEnqueue request message).map fun queue =>
      { client with writeQueue := queue }
  | .cancel request message =>
    match client.requests[request]? with
    | some object =>
      if object.owner = .handle then some (client.cancelPending request message).1 else none
    | none => none
  | .timerExpires request =>
    match client.requests[request]? with
    | some object =>
      if object.timer = .waiting then
        some (client.modifyRequest request fun object => { object with timer := .expired })
      else none
    | none => none
  | .timerHandler request =>
    match client.requests[request]? with
    | some object =>
      let handled := client.modifyRequest request fun object => { object with timer := .done }
      match object.timer with
      | .expired => some (handled.timeoutPending request)
      | .cancelled => some handled
      | _ => none
    | none => none
  | .destroyHandle request =>
    match client.requests[request]? with
    | some object =>
      if object.owner = .handle ∧ object.channel.waiting = [] ∧ object.resumed = [] then
        some ((client.discardPending request).modifyRequest request
          fun object => { object with owner := .released })
      else none
    | none => none
  | .asyncWait request =>
    match client.requests[request]? with
    | some object =>
      if object.owner = .handle then
        some (client.modifyRequest request PendingRequest.asyncWait)
      else none
    | none => none
  | .resumeWait request wait =>
    match client.requests[request]? with
    | some object =>
      (object.resumed.lookup wait).map (client.resumeWait registry codec request wait)
    | none => none
  | .abortWait request wait =>
    match client.requests[request]? with
    | some object =>
      if wait ∈ object.channel.waiting then
        some (client.modifyRequest request fun object =>
          { object with
            channel := object.channel.withdraw wait
            resumed := object.resumed ++ [(wait, none)] })
      else none
    | none => none
  | .received bytes =>
    if client.reader = .awaiting ∧ 0 < bytes.length ∧ bytes.length ≤ 4096 then
      some (client.received bytes)
    else none
  | .endOfFile closes | .readFailed closes =>
    if client.reader = .awaiting then
      some { client with transportOpen := client.transportOpen && !closes }.finishReading
    else none
  | .dispatchNext => none
  | .shutdown expired => some (client.shutdown expired)
  | .drainTick expired aborted =>
    if client.drains = 0 then none else some (client.drainTick expired aborted)
  | .resumeWriter => client.resumeWriter
  | .writeCompleted => client.writeCompleted
  | .writeFailed what =>
    (client.writeQueue.writeFailed what).map fun queue =>
      { client with writeQueue := queue, transportOpen := false }

/-- One step of the connection. While the frames of a read are being dispatched
nothing else runs. -/
def step (client : ClientConnection ν) (event : ClientEvent ν) : Option (ClientConnection ν) :=
  match client.reader, event with
  | .dispatching (frame :: rest), .dispatchNext => some (client.dispatchFrame frame rest)
  | .dispatching [], .dispatchNext => some client.endBatch
  | .dispatching _, _ => none
  | _, event => client.act registry codec event

end Step

end ClientConnection

end Client

end Rillnet
