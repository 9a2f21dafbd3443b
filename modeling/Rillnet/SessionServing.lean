import Rillnet.Workload
import Rillnet.Whereabouts

/-!
# A session that is served comes to rest

A session is served while one of its two sides goes on by itself, or bytes that were sent are
read. What is on its way pays for itself: every byte for being read, every frame for being
dispatched. So a session can be served only so often, and when it can be served no more,
every request that still waits is with a handler of the application or was given up.
-/

namespace Rillnet

open FrameGrammar (encodeFrames meaning)

/-- What a frame from the server costs: its bytes, and its dispatch. -/
def Frame.downWeight (frame : Frame) : Nat := 2 * (encodeFrame frame).length + 1

/-- The price of a handler that starts: the error frame that may come of it. -/
def handlerPrice : Nat := 46

/-- What a frame from the client costs: its bytes, and its dispatch with the handler. -/
def Frame.upWeight (frame : Frame) : Nat := 2 * (encodeFrame frame).length + (handlerPrice + 1)

/-- What is on its way, at a price for every frame that is to be dispatched. -/
def onTheWay (price : Nat) (sent : List Frame) (read : Nat) (dispatched : List Frame) : Nat :=
  2 * ((encodeFrames sent).length - read) + price * (sent.length - dispatched.length)

section Wires

variable (price : Nat) {read : Nat} {sent dispatched : List Frame}

theorem makeErrorFrame_dear (stream : StreamId) (status : StatusCode) :
    4 + (makeErrorFrame stream status).downWeight < handlerPrice := by
  simp [Frame.downWeight, encodeFrame, makeErrorFrame, handlerPrice, frameHeaderSize]

theorem sum_weights (frames : List Frame) :
    (frames.map fun frame => 2 * (encodeFrame frame).length + price).sum =
      2 * (encodeFrames frames).length + price * frames.length := by
  induction frames with
  | nil => rfl
  | cons frame rest inductionHypothesis =>
    have bytes : (encodeFrames (frame :: rest)).length =
        (encodeFrame frame).length + (encodeFrames rest).length := by
      simp [encodeFrames]
    rw [List.map_cons, List.sum_cons, inductionHypothesis, bytes, List.length_cons, Nat.mul_succ]
    omega

/-- Frames that are sent are on their way. -/
theorem onTheWay_sent (frames : List Frame) (bound : read ≤ (encodeFrames sent).length)
    (fewer : dispatched.length ≤ sent.length) :
    onTheWay price (sent ++ frames) read dispatched = onTheWay price sent read dispatched +
      (frames.map fun frame => 2 * (encodeFrame frame).length + price).sum := by
  have bytes : (encodeFrames (sent ++ frames)).length =
      (encodeFrames sent).length + (encodeFrames frames).length := by
    simp [encodeFrames]
  have count : sent.length + frames.length - dispatched.length =
      (sent.length - dispatched.length) + frames.length := by
    omega
  rw [sum_weights]
  unfold onTheWay
  rw [bytes, List.length_append, count, Nat.mul_add]
  omega

/-- Frames that are dispatched have arrived. -/
theorem onTheWay_dispatched (read : Nat) {frames : List Frame}
    (fewer : (dispatched ++ frames).length ≤ sent.length) :
    onTheWay price sent read (dispatched ++ frames) + price * frames.length =
      onTheWay price sent read dispatched := by
  rw [List.length_append] at fewer
  have count : sent.length - dispatched.length =
      (sent.length - (dispatched.length + frames.length)) + frames.length := by
    omega
  unfold onTheWay
  rw [List.length_append, count, Nat.mul_add]
  omega

/-- Bytes that are read have arrived. -/
theorem onTheWay_read (dispatched : List Frame) {count : Nat}
    (bound : read + count ≤ (encodeFrames sent).length) :
    onTheWay price sent (read + count) dispatched + 2 * count =
      onTheWay price sent read dispatched := by
  unfold onTheWay
  omega

end Wires

section Serving

variable {τ : Type} {ν : τ → Type}

/-- One side goes on by itself, or reads. -/
def SessionEvent.serves : SessionEvent ν → Bool
  | .client event => event.serves
  | .server event => event.serves
  | .serverReads _ | .clientReads _ => true

namespace Session

/-- A bound on how often a session can be served. -/
def load (session : Session ν) : Nat :=
  session.client.load Frame.upWeight + session.server.load Frame.downWeight handlerPrice +
    onTheWay (handlerPrice + 1) session.client.sent session.upRead session.server.dispatched +
    onTheWay 1 session.server.sent session.downRead session.client.dispatched

section Steps

variable [DecidableEq τ] {registry : MessageRegistry τ} {codec : Codec τ ν}
variable {session after : Session ν}

/-- What serving needs of a state. -/
structure Ready (session : Session ν) : Prop where
  joined : session.Joined
  client : session.client.writeQueue.Regular
  server : session.server.writeQueue.Regular
  accounted : ∀ (request : Nat) (object : PendingRequest ν),
    session.client.requests[request]? = some object → object.Accounted

theorem Reachable.serverRun {guard : Session ν → SessionEvent ν → Prop}
    {clientLimits serverLimits : WriteQueueLimits} {maximumStreamId : UInt64}
    (reachable : Reachable registry codec guard clientLimits serverLimits maximumStreamId session) :
    ServerConnection.Reachable registry codec Reachability.unguarded serverLimits session.server := by
  apply Reachability.Reaches.invariant (fun session : Session ν =>
    ServerConnection.Reachable registry codec Reachability.unguarded serverLimits session.server) ?_ ?_
    reachable
  · exact .start
  intro before event after reached _ stepped
  rcases step_moves stepped with ⟨move, -, moved⟩ | ⟨move, -, moved⟩
  · rw [moved.server]
    exact reached
  · exact .next reached trivial moved.stepped

theorem Reachable.ready {guard : Session ν → SessionEvent ν → Prop}
    {clientLimits serverLimits : WriteQueueLimits} {maximumStreamId : UInt64}
    (reachable : Reachable registry codec guard clientLimits serverLimits maximumStreamId session) :
    session.Ready where
  joined := reachable.joined
  client := ClientConnection.Reachable.queue_regular reachable.clientRun
  server := ServerConnection.Reachable.queue_regular reachable.serverRun
  accounted := ClientConnection.Reachable.placed reachable.clientRun

omit [DecidableEq τ] in
/-- What a side dispatched fits into what the other sent. -/
theorem Joined.fewer (joined : session.Joined) :
    session.server.dispatched.length ≤ session.client.sent.length ∧
      session.client.dispatched.length ≤ session.server.sent.length :=
  ⟨((List.prefix_append _ _).trans joined.up.1).length_le,
    ((List.prefix_append _ _).trans joined.down.1).length_le⟩

/-- By itself a side goes on as it does alone. -/
theorem client_step (session : Session ν) {event : ClientEvent ν} (serving : event.serves = true) :
    session.step registry codec (.client event) =
      (session.client.step registry codec event).map fun client =>
        { session with client := client } := by
  cases event <;> first | rfl | simp [ClientEvent.serves] at serving

theorem server_step (session : Session ν) {event : ServerEvent ν} (serving : event.serves = true) :
    session.step registry codec (.server event) =
      (session.server.step registry codec event).map fun server =>
        { session with server := server } := by
  cases event <;> first | rfl | simp [ServerEvent.serves] at serving

/-- A step of the client is paid for out of the load of the session. -/
theorem Ready.clientServes (ready : session.Ready) {event : ClientEvent ν}
    (serving : event.serves = true)
    (stepped : session.step registry codec (.client event) = some after) : after.load < session.load := by
  have arrives := (ready.joined.step stepped).fewer.2
  rw [session.client_step serving] at stepped
  obtain ⟨client, moves, rfl⟩ := Option.map_eq_some_iff.mp stepped
  obtain ⟨frames, taken, sent, dispatched, less⟩ :=
    ClientConnection.serves_spends Frame.upWeight ready.joined.consistent ready.client ready.accounted
      (fun frame rest reading => (ready.joined.server.sound.answering
        (ready.joined.server_sent.subset ((ready.joined.down_next reading).subset (by simp)))).2.2)
      serving moves
  have sends : client.sent = session.client.sent ++ frames := sent
  have takes : client.dispatched = session.client.dispatched ++ taken := dispatched
  have up := onTheWay_sent (handlerPrice + 1) frames ready.joined.upBound ready.joined.fewer.1
  have down := onTheWay_dispatched 1 session.downRead
    (show (session.client.dispatched ++ taken).length ≤ session.server.sent.length from
      takes ▸ arrives)
  simp only [load, sends, takes]
  change client.load Frame.upWeight + (frames.map fun frame =>
    2 * (encodeFrame frame).length + (handlerPrice + 1)).sum < _ at less
  omega

/-- So is a step of the server. -/
theorem Ready.serverServes (ready : session.Ready) {event : ServerEvent ν}
    (serving : event.serves = true)
    (stepped : session.step registry codec (.server event) = some after) : after.load < session.load := by
  have arrives := (ready.joined.step stepped).fewer.1
  rw [session.server_step serving] at stepped
  obtain ⟨server, moves, rfl⟩ := Option.map_eq_some_iff.mp stepped
  obtain ⟨frames, taken, sent, dispatched, less⟩ :=
    ServerConnection.serves_spends Frame.downWeight handlerPrice makeErrorFrame_dear ready.server
      serving moves
  have sends : server.sent = session.server.sent ++ frames := sent
  have takes : server.dispatched = session.server.dispatched ++ taken := dispatched
  have down := onTheWay_sent 1 frames ready.joined.downBound ready.joined.fewer.2
  have up := onTheWay_dispatched (handlerPrice + 1) session.upRead
    (show (session.server.dispatched ++ taken).length ≤ session.client.sent.length from
      takes ▸ arrives)
  simp only [load, sends, takes]
  change server.load Frame.downWeight handlerPrice + (frames.map fun frame =>
    2 * (encodeFrame frame).length + 1).sum < _ at less
  omega

/-- Bytes that are read wake the read loop. -/
theorem Ready.reads (ready : session.Ready) {event : SessionEvent ν}
    (reading : (∃ count, event = .serverReads count) ∨ ∃ count, event = .clientReads count)
    (stepped : session.step registry codec event = some after) : after.load < session.load := by
  rcases reading with ⟨count, rfl⟩ | ⟨count, rfl⟩
  · obtain ⟨full, read⟩ := Option.ite_none_right_eq_some.mp stepped
    obtain ⟨server, moved, rfl⟩ := Option.map_eq_some_iff.mp read
    have way := onTheWay_read (handlerPrice + 1) session.server.dispatched
      ((transferred_read full).2 ready.joined.upBound)
    cases session.server.step_acts moved (by simp) with
    | received _ awaiting sized =>
      rw [full] at sized
      have woken := ServerConnection.received_load Frame.downWeight handlerPrice awaiting
        (transferred session.client.sent session.upRead count)
      unfold load
      change session.client.load _ + (session.server.received _).load _ _ +
        onTheWay _ session.client.sent (session.upRead + count) session.server.dispatched +
          onTheWay _ session.server.sent session.downRead session.client.dispatched < _
      rw [woken]
      omega
  · obtain ⟨full, read⟩ := Option.ite_none_right_eq_some.mp stepped
    obtain ⟨client, moved, rfl⟩ := Option.map_eq_some_iff.mp read
    have way := onTheWay_read 1 session.client.dispatched
      ((transferred_read full).2 ready.joined.downBound)
    cases session.client.step_advances moved with
    | acts _ acts =>
      cases acts with
      | received _ awaiting sized =>
        rw [full] at sized
        have woken := ClientConnection.received_load Frame.upWeight awaiting
          (transferred session.server.sent session.downRead count)
        unfold load
        change (session.client.received _).load _ + session.server.load _ _ +
          onTheWay _ session.client.sent session.upRead session.server.dispatched +
            onTheWay _ session.server.sent (session.downRead + count) session.client.dispatched < _
        rw [woken]
        omega

/-- Whenever a session is served, its load gets less. -/
theorem Ready.serves (ready : session.Ready) {event : SessionEvent ν}
    (serving : event.serves = true) (stepped : session.step registry codec event = some after) :
    after.load < session.load := by
  cases event with
  | client event => exact ready.clientServes serving stepped
  | server event => exact ready.serverServes serving stepped
  | serverReads count => exact ready.reads (Or.inl ⟨count, rfl⟩) stepped
  | clientReads count => exact ready.reads (Or.inr ⟨count, rfl⟩) stepped

end Steps

end Session

namespace Survey

section Rest

variable [DecidableEq τ] (registry : MessageRegistry τ) (codec : Codec τ ν)

/-- The session is served once. -/
def Serves (before after : Survey ν) : Prop :=
  ∃ event : SessionEvent ν, event.serves = true ∧ before.step registry codec event = some after

variable {registry codec} {survey before after : Survey ν}
variable {guard : Session ν → SessionEvent ν → Prop} {clientLimits serverLimits : WriteQueueLimits}
variable {maximumStreamId : UInt64}

/-- Runs go on being runs under a guard that does not stand in the way of serving. -/
theorem Serves.reachable (serves : before.Serves registry codec after)
    (admits : ∀ session event, event.serves = true → guard session event)
    (reachable : Reachable registry codec guard clientLimits serverLimits maximumStreamId before) :
    Reachable registry codec guard clientLimits serverLimits maximumStreamId after := by
  obtain ⟨event, serving, stepped⟩ := serves
  exact .next reachable (admits _ event serving) stepped

theorem Serves.load (serves : before.Serves registry codec after)
    (reachable : Reachable registry codec guard clientLimits serverLimits maximumStreamId before) :
    after.session.load < before.session.load := by
  obtain ⟨event, serving, stepped⟩ := serves
  exact reachable.session.ready.serves serving (step_eq stepped).1

end Rest

end Survey

end Serving

end Rillnet
