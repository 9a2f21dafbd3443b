import Rillnet.TcpConnections

/-!
# A session over TCP

A client and a server connection, each attached to its side of one TCP connection. Every
step is a step of one side: the connection's own, a resumed coroutine of its transport, or
the system's, which takes bytes from a write, hands bytes to a read, reports the end of
the stream or fails an operation.

The session whose transports only carry bytes is what such a session is for: every run
over TCP is one of its runs, with partial writes, bytes on their way and operations on the
sockets left out. What was shown of it holds over TCP. Nor does TCP end a stream early: a
side that is told the end has dispatched every frame that the other side wrote completely.
-/

namespace Rillnet

open FrameGrammar (encodeFrames meaning)

/-- A step that leaves the read loop finished dispatches nothing. -/
theorem ConnectionShell.Turn.dispatches_nothing {vacated : Prop} {input : Buffer}
    {before after : ConnectionShell} (turn : Turn vacated before input after)
    (finished : after.reader = .finished) : after.dispatched = before.dispatched := by
  cases turn with
  | seen | accused | severed => simp [ConnectionShell.seen] at finished
  | kept | run | awaits | received | ended | malformed | shutdown | closed | ticked | sent | lost =>
    rfl

section Endings

variable {σ ε : Type} {endpoint : Endpoint σ ε} {valid : σ → Prop} (shell : σ → ConnectionShell)

/-- Every step turns the shell, and the end of the stream ends the read loop. -/
structure Endpoint.Turns (endpoint : Endpoint σ ε) (valid : σ → Prop) : Prop where
  turns : ∀ before event after, valid before → endpoint.step before event = some after →
    ∃ vacated input, ConnectionShell.Turn vacated (shell before) input (shell after)
  awaits : ∀ connection, endpoint.awaiting connection = true → (shell connection).reader = .awaiting
  finishes : ∀ before closes after, endpoint.step before (endpoint.endOfFile closes) = some after →
    (shell after).reader = .finished

/-- A connection that was told the end of the stream has dispatched every frame in it. -/
def Attached.Told (attached : Attached σ) (stream : Buffer) : Prop :=
  attached.port.ended = true → (shell attached.connection).reader = .finished ∧
    (shell attached.connection).dispatched = (meaning defaultMaxPayloadSize stream).2

variable {shell} {attached after : Attached σ} {peer : TcpPort}

/-- A finished read loop stays finished and dispatches nothing. -/
theorem Endpoint.Turns.rests (turns : endpoint.Turns shell valid) {before next : σ} {event : ε}
    (isValid : valid before) (stepped : endpoint.step before event = some next)
    (finished : (shell before).reader = .finished) :
    (shell next).reader = .finished ∧ (shell next).dispatched = (shell before).dispatched := by
  obtain ⟨vacated, input, turn⟩ := turns.turns _ _ _ isValid stepped
  have stays := turn.finished finished
  exact ⟨stays, turn.dispatches_nothing stays⟩

/-- The end of the stream is told only after everything in it was read, and by then the
read loop has dispatched what it read. -/
theorem Attached.Told.moves (told : attached.Told shell peer.outgoing)
    (moves : Attached.Moves endpoint peer attached after) (lawful : endpoint.Lawful valid)
    (turns : endpoint.Turns shell valid) (isValid : valid attached.connection)
    (fed : (shell attached.connection).Fed (peer.outgoing.take attached.port.consumed)) :
    after.Told shell peer.outgoing := by
  have rests : ∀ {event : ε}, after.port.ended = attached.port.ended →
      endpoint.step attached.connection event = some after.connection →
      after.Told shell peer.outgoing := by
    intro event same stepped gone
    obtain ⟨finished, whole⟩ := told (same.symm.trans gone)
    obtain ⟨stays, kept⟩ := turns.rests isValid stepped finished
    exact ⟨stays, kept.trans whole⟩
  cases moves with
  | still connection consumed ended =>
    intro gone
    rw [connection]
    exact told (ended.symm.trans gone)
  | once event other stepped consumed ended => exact rests ended stepped
  | twice first second middle other stepped again consumed ended =>
    intro gone
    obtain ⟨finished, whole⟩ := told (ended.symm.trans gone)
    obtain ⟨rested, same⟩ := turns.rests isValid stepped finished
    obtain ⟨stays, kept⟩ := turns.rests (lawful.kept _ _ _ isValid stepped) again rested
    exact ⟨stays, (kept.trans same).trans whole⟩
  | reads bytes front within stepped consumed ended => exact rests ended stepped
  | ends closes awaiting stepped whole consumed =>
    intro _
    have finished := turns.finishes _ _ _ stepped
    have reading := turns.awaits _ awaiting
    obtain ⟨vacated, input, turn⟩ := turns.turns _ _ _ isValid stepped
    refine ⟨finished, (turn.dispatches_nothing finished).trans ?_⟩
    have all := fed.whole (by simp [reading]) (by simp [reading])
    rw [whole, List.take_length] at all
    simpa [reading, Reader.batch] using all

end Endings

section Sessions

variable {τ : Type} {ν : τ → Type}

/-- The two connections on their sides of a TCP connection. -/
structure TcpSession (ν : τ → Type) where
  client : Attached (ClientConnection ν)
  server : Attached (ServerConnection ν)

/-- What can happen next. -/
inductive TcpSessionEvent (ν : τ → Type) where
  | client (event : PortEvent (ClientEvent ν))
  | server (event : PortEvent (ServerEvent ν))

namespace TcpSession

/-- Two new connections on a new TCP connection. -/
def create (clientLimits serverLimits : WriteQueueLimits) (maximumStreamId : UInt64) :
    TcpSession ν where
  client := { connection := ClientConnection.create clientLimits maximumStreamId }
  server := { connection := ServerConnection.create serverLimits }

/-- The session with the sockets left out. -/
def abstracted (session : TcpSession ν) : Session ν where
  client := session.client.connection
  server := session.server.connection
  upRead := session.server.port.consumed
  downRead := session.client.port.consumed

variable [DecidableEq τ] (registry : MessageRegistry τ) (codec : Codec τ ν)
variable (what : SocketError → String)

/-- One step of one of the two ends, or of the connection between them. -/
def step (session : TcpSession ν) : TcpSessionEvent ν → Option (TcpSession ν)
  | .client event =>
    (session.client.step (clientEndpoint registry codec) what session.server.port event).map
      fun client => { session with client := client }
  | .server event =>
    (session.server.step (serverEndpoint registry codec) what session.client.port event).map
      fun server => { session with server := server }

/-- The states two new connections reach over TCP. -/
def Reachable (clientLimits serverLimits : WriteQueueLimits) (maximumStreamId : UInt64) :
    TcpSession ν → Prop :=
  Reachability.Reaches (step registry codec what) Reachability.unguarded
    (create clientLimits serverLimits maximumStreamId)

/-- Both sides agree with their transports, read each other's streams, and are where the
session without sockets can be. -/
structure Linked (clientLimits serverLimits : WriteQueueLimits) (maximumStreamId : UInt64)
    (session : TcpSession ν) : Prop where
  client : session.client.Plugged (clientEndpoint registry codec)
  server : session.server.Plugged (serverEndpoint registry codec)
  clientReads : session.client.port.Reads session.server.port
  serverReads : session.server.port.Reads session.client.port
  serverRun : ServerConnection.Reachable registry codec Reachability.unguarded serverLimits
    session.server.connection
  reached : Session.Reachable registry codec Reachability.unguarded clientLimits serverLimits
    maximumStreamId session.abstracted
  clientTold : session.client.Told ClientConnection.shell session.server.port.outgoing
  serverTold : session.server.Told ServerConnection.shell session.client.port.outgoing

variable {registry codec what}

/-- Two new connections are a new session. -/
theorem create_linked (clientLimits serverLimits : WriteQueueLimits) (maximumStreamId : UInt64) :
    Linked registry codec clientLimits serverLimits maximumStreamId
      (create clientLimits serverLimits maximumStreamId : TcpSession ν) := by
  have sound : ({} : TcpTransport).Sound := ⟨rfl, rfl, nofun, nofun, nofun, nofun⟩
  have carries : ({} : TcpPort).Carries none [] [] :=
    ⟨fun _ => rfl, nofun, fun _ _ => ⟨rfl, rfl⟩, List.prefix_rfl, List.prefix_rfl, [], rfl, by simp⟩
  have reads : ({} : TcpPort).Reads {} := by
    refine ⟨Nat.le_refl _, rfl, rfl, ?_, nofun⟩
    rintro ⟨size, posted⟩
    simp at posted
  exact ⟨⟨sound, rfl, rfl, nofun, carries⟩, ⟨sound, rfl, rfl, nofun, carries⟩, reads, reads,
    .start, .start, nofun, nofun⟩

section Simulation

variable {session : Session ν}

/-- A step of the client that reads nothing. -/
theorem step_client {event : ClientEvent ν} {client : ClientConnection ν}
    (other : ∀ bytes, event ≠ .received bytes)
    (stepped : session.client.step registry codec event = some client) :
    session.step registry codec (.client event) = some { session with client := client } := by
  cases event with
  | received bytes => exact absurd rfl (other bytes)
  | _ => simp [Session.step, stepped]

/-- What the server does by itself is a step of the session. -/
theorem step_server {event : ServerEvent ν} {server : ServerConnection ν}
    (other : ∀ bytes, event ≠ .received bytes)
    (stepped : session.server.step registry codec event = some server) :
    session.step registry codec (.server event) = some { session with server := server } := by
  cases event with
  | received bytes => exact absurd rfl (other bytes)
  | _ => simp [Session.step, stepped]

/-- A read of the next bytes that the server gave to its transport. -/
theorem step_clientReads {bytes : Buffer} {client : ClientConnection ν}
    (front : Session.transferred session.server.sent session.downRead bytes.length = bytes)
    (stepped : session.client.step registry codec (.received bytes) = some client) :
    session.step registry codec (.clientReads bytes.length) =
      some { session with client := client, downRead := session.downRead + bytes.length } := by
  simp [Session.step, front, stepped]

/-- What the server reads is what the connection carried to it. -/
theorem step_serverReads {bytes : Buffer} {server : ServerConnection ν}
    (front : Session.transferred session.client.sent session.upRead bytes.length = bytes)
    (stepped : session.server.step registry codec (.received bytes) = some server) :
    session.step registry codec (.serverReads bytes.length) =
      some { session with server := server, upRead := session.upRead + bytes.length } := by
  simp [Session.step, front, stepped]

end Simulation

/-- The bytes a side reads are those that the other side gave to its transport. -/
theorem transferred_front {peer : TcpPort} {underWrite : Option Frame}
    {sent completed : List Frame} (carries : peer.Carries underWrite sent completed)
    {bytes : Buffer} {count : Nat} (front : bytes = (peer.outgoing.drop count).take bytes.length)
    (within : count + bytes.length ≤ peer.outgoing.length) :
    Session.transferred sent count bytes.length = bytes := by
  obtain ⟨more, stream⟩ := carries.given
  rw [Session.transferred, ← stream, List.drop_append_of_le_length (by omega),
    List.take_append_of_le_length (by rw [List.length_drop]; omega)]
  exact front.symm

section Runs

variable {session : TcpSession ν}

/-- What a step over TCP is to the client is a run of the session without sockets. -/
theorem client_run {valid : ClientConnection ν → Prop} {client : Attached (ClientConnection ν)}
    (lawful : (clientEndpoint registry codec).Lawful valid)
    (moves : Attached.Moves (clientEndpoint registry codec) session.server.port session.client client)
    (server : session.server.Plugged (serverEndpoint registry codec)) :
    Reachability.Reaches (Session.step registry codec) Reachability.unguarded session.abstracted
      { session with client := client }.abstracted := by
  refine moves.run lawful _
    (fun client count => { session.abstracted with client := client, downRead := count }) ?_ ?_
  · intro before event next count other stepped
    exact ⟨_, step_client other stepped⟩
  · intro before bytes next count front within stepped
    exact ⟨_, step_clientReads (transferred_front server.carries front within) stepped⟩

/-- A move of the server on its transport is a run of the session. -/
theorem server_run {valid : ServerConnection ν → Prop} {server : Attached (ServerConnection ν)}
    (lawful : (serverEndpoint registry codec).Lawful valid)
    (moves : Attached.Moves (serverEndpoint registry codec) session.client.port session.server server)
    (client : session.client.Plugged (clientEndpoint registry codec)) :
    Reachability.Reaches (Session.step registry codec) Reachability.unguarded session.abstracted
      { session with server := server }.abstracted := by
  refine moves.run lawful _
    (fun server count => { session.abstracted with server := server, upRead := count }) ?_ ?_
  · intro before event next count other stepped
    exact ⟨_, step_server other stepped⟩
  · intro before bytes next count front within stepped
    exact ⟨_, step_serverReads (transferred_front client.carries front within) stepped⟩

end Runs

variable (registry codec) in
/-- Every step of a client turns its shell as its transport expects. -/
theorem clientEndpoint_turns (limits : WriteQueueLimits) (maximumStreamId : UInt64) :
    (clientEndpoint registry codec : Endpoint (ClientConnection ν) (ClientEvent ν)).Turns
      ClientConnection.shell
      (ClientConnection.Reachable registry codec Reachability.unguarded limits maximumStreamId) where
  turns := fun before event after reachable stepped =>
    ⟨_, _, before.step_turn event after reachable.consistent stepped⟩
  awaits := fun client awaiting => of_decide_eq_true awaiting
  finishes := by
    intro before closes after stepped
    cases before.step_advances stepped with
    | acts _ acts =>
      cases acts with
      | endOfFile closes awaiting => exact (before.readEnded_effect closes).1

variable (registry codec) in
/-- Every step of a server turns its shell as its transport expects. -/
theorem serverEndpoint_turns (limits : WriteQueueLimits) :
    (serverEndpoint registry codec : Endpoint (ServerConnection ν) (ServerEvent ν)).Turns
      ServerConnection.shell
      (ServerConnection.Reachable registry codec Reachability.unguarded limits) where
  turns := fun before event after reachable stepped =>
    ⟨_, _, before.step_turn event after stepped⟩
  awaits := fun server awaiting => of_decide_eq_true awaiting
  finishes := by
    intro before closes after stepped
    cases before.step_advances stepped with
    | acts acts =>
      cases acts with
      | endOfFile closes awaiting =>
        exact (before.readEnded_effect (before.transportOpen && !closes) _).1

section Steps

variable {clientLimits serverLimits : WriteQueueLimits} {maximumStreamId : UInt64}
variable {session after : TcpSession ν}
variable (linked : Linked registry codec clientLimits serverLimits maximumStreamId session)
include linked

/-- What the server read is what stands in front of the client's stream. -/
theorem Linked.serverFed : session.server.connection.shell.Fed
    (session.client.port.outgoing.take session.server.port.consumed) := by
  have fed := linked.reached.joined.serverFed
  obtain ⟨more, stream⟩ := linked.client.carries.given
  have within := linked.serverReads.within
  have count := linked.serverReads.count
  have encoded : encodeFrames session.abstracted.client.sent =
    session.client.port.outgoing ++ more := stream.symm
  rw [encoded, List.take_append_of_le_length (by dsimp only [abstracted]; omega)] at fed
  exact fed

/-- The client has read what its transport took over, and nothing else. -/
theorem Linked.clientFed : session.client.connection.shell.Fed
    (session.server.port.outgoing.take session.client.port.consumed) := by
  have fed := linked.reached.joined.clientFed
  obtain ⟨more, stream⟩ := linked.server.carries.given
  have within := linked.clientReads.within
  have count := linked.clientReads.count
  have encoded : encodeFrames session.abstracted.server.sent =
    session.server.port.outgoing ++ more := stream.symm
  rw [encoded, List.take_append_of_le_length (by dsimp only [abstracted]; omega)] at fed
  exact fed

/-- A step of the client on its transport is a run of the session. -/
theorem Linked.client_step {event : PortEvent (ClientEvent ν)} {client : Attached (ClientConnection ν)}
    (stepped : session.client.step (clientEndpoint registry codec) what session.server.port event =
      some client) :
    Linked registry codec clientLimits serverLimits maximumStreamId
      { session with client := client } := by
  have lawful : (clientEndpoint registry codec).Lawful _ :=
    clientEndpoint_lawful clientLimits maximumStreamId
  have isValid := linked.reached.clientRun
  obtain ⟨moves, reads⟩ := linked.client.step_moves lawful isValid linked.clientReads stepped
    linked.server.sound.agrees
  obtain ⟨grows, shut⟩ := Attached.step_grows linked.client.sound stepped
  constructor
  · exact linked.client.step lawful isValid stepped
  · exact linked.server
  · exact reads
  · exact linked.serverReads.follows grows shut
  · exact linked.serverRun
  · exact linked.reached.trans (client_run lawful moves linked.server)
  · exact linked.clientTold.moves moves lawful (clientEndpoint_turns registry codec _ _) isValid
      linked.clientFed
  · intro gone
    have same := (shut (linked.serverReads.ended gone).1).2
    dsimp only
    rw [same]
    exact linked.serverTold gone

/-- A step of the server on its transport is a run of the session. -/
theorem Linked.server_step {event : PortEvent (ServerEvent ν)} {server : Attached (ServerConnection ν)}
    (stepped : session.server.step (serverEndpoint registry codec) what session.client.port event =
      some server) :
    Linked registry codec clientLimits serverLimits maximumStreamId
      { session with server := server } := by
  have lawful : (serverEndpoint registry codec).Lawful _ := serverEndpoint_lawful serverLimits
  have isValid := linked.serverRun
  obtain ⟨moves, reads⟩ := linked.server.step_moves lawful isValid linked.serverReads stepped
    linked.client.sound.agrees
  obtain ⟨grows, shut⟩ := Attached.step_grows linked.server.sound stepped
  constructor
  · exact linked.client
  · exact linked.server.step lawful isValid stepped
  · exact linked.clientReads.follows grows shut
  · exact reads
  · exact moves.kept lawful isValid
  · exact linked.reached.trans (server_run lawful moves linked.client)
  · intro gone
    have same := (shut (linked.clientReads.ended gone).1).2
    dsimp only
    rw [same]
    exact linked.clientTold gone
  · exact linked.serverTold.moves moves lawful (serverEndpoint_turns registry codec _) isValid
      linked.serverFed

/-- Every step over TCP keeps the two sides linked. -/
theorem Linked.step {event : TcpSessionEvent ν}
    (stepped : session.step registry codec what event = some after) :
    Linked registry codec clientLimits serverLimits maximumStreamId after := by
  cases event with
  | client event =>
    obtain ⟨client, moved, rfl⟩ := Option.map_eq_some_iff.mp stepped
    exact linked.client_step moved
  | server event =>
    obtain ⟨server, moved, rfl⟩ := Option.map_eq_some_iff.mp stepped
    exact linked.server_step moved

end Steps

/-- The client's first request is written in two parts; its transport is closed while the
second one is under way. The server reads all that was transmitted, and then the end. -/
def closedMidway : Option (TcpSession fun _ : Unit => UInt8) :=
  Reachability.run (step byteRegistry byteCodec fun _ => "broken pipe") Reachability.unguarded
    (create {} {} 0xFFFFFFFFFFFFFFFF)
    [.client (.own .run), .client (.own .startWriter), .client (.own .startReader),
      .client (.own (.startRequest () 5 () none)), .client (.own (.startRequest () 6 () none)),
      .client .resumeWriter, .client (.transmits 7), .client .resumeWrite,
      .client (.transmits 16), .client .resumeWrite, .client .resumeWriter, .client (.transmits 5),
      .server (.own .run), .server (.own .startWriter), .server (.own .startReader), .server (.arrives 28),
      .client (.own (.shutdown true)), .server .resumeRead, .server (.own .dispatchNext),
      .server (.own .dispatchNext), .server .ends, .server .resumeRead]

section Reached

variable {clientLimits serverLimits : WriteQueueLimits} {maximumStreamId : UInt64}
variable {session : TcpSession ν}

/-- In every reachable state the two connections are those of a session that was reached. -/
theorem Reachable.linked
    (reachable : Reachable registry codec what clientLimits serverLimits maximumStreamId session) :
    Linked registry codec clientLimits serverLimits maximumStreamId session := by
  apply Reachability.Reaches.invariant (Linked registry codec clientLimits serverLimits maximumStreamId)
    (create_linked clientLimits serverLimits maximumStreamId) ?_ reachable
  intro before event after linked _ stepped
  exact linked.step stepped

/-- A run over TCP is a run of the session whose transports only carry bytes: partial
writes, bytes on their way, operations of the sockets and their failures do not show. Each
connection takes its transport for open exactly while the transport is. -/
theorem tcp_refinement
    (reachable : Reachable registry codec what clientLimits serverLimits maximumStreamId session) :
    Session.Reachable registry codec Reachability.unguarded clientLimits serverLimits maximumStreamId
        session.abstracted ∧
      session.client.connection.transportOpen = session.client.port.transport.isOpen ∧
      session.server.connection.transportOpen = session.server.port.transport.isOpen := by
  have linked := reachable.linked
  refine ⟨linked.reached, ?_, ?_⟩
  · exact linked.client.usable.trans linked.client.sound.isOpen.symm
  · exact linked.server.usable.trans linked.server.sound.isOpen.symm

theorem tcp_refinement_closedMidway :
    ∃ session, closedMidway = some session ∧
      Session.Reachable byteRegistry byteCodec Reachability.unguarded {} {} 0xFFFFFFFFFFFFFFFF
        session.abstracted ∧
      session.abstracted.upRead = 28 ∧ session.client.connection.transportOpen = false ∧
      session.client.port.transport.isOpen = false := by
  have reads : closedMidway.map (fun session => (session.abstracted.upRead,
      session.client.connection.transportOpen)) = some (28, false) := by decide +kernel
  obtain ⟨session, reached, seen⟩ := Option.map_eq_some_iff.mp reads
  obtain ⟨read, shut⟩ : session.abstracted.upRead = 28 ∧
    session.client.connection.transportOpen = false := by simpa using seen
  obtain ⟨refines, client, -⟩ := tcp_refinement (Reachability.run_reaches _ _ _ _ _ reached)
  exact ⟨session, reached, refines, read, shut, client.symm.trans shut⟩

/-- The frames in a whole stream: all that were written completely, and at most the one
after them. -/
theorem stream_frames {peer : TcpPort} {underWrite : Option Frame} {sent completed : List Frame}
    (carries : peer.Carries underWrite sent completed)
    (valid : ∀ frame ∈ sent, validateFrame frame = .none) :
    completed <+: (meaning defaultMaxPayloadSize peer.outgoing).2 ∧
      (meaning defaultMaxPayloadSize peer.outgoing).2 <+: sent ∧
      sent.length ≤ completed.length + 1 := by
  have grows : ∀ {left right : Buffer}, left <+: right →
      (meaning defaultMaxPayloadSize left).2 <+: (meaning defaultMaxPayloadSize right).2 := by
    rintro left - ⟨more, rfl⟩
    exact Transducer.feed_output_mono _ _ left more
  obtain ⟨rest, given, short⟩ := carries.last
  have whole := FrameGrammar.meaning_encoded defaultMaxPayloadSize sent valid
  have part := FrameGrammar.meaning_encoded defaultMaxPayloadSize completed
    fun frame member => valid frame (by rw [given]; exact List.mem_append_left _ member)
  refine ⟨?_, ?_, ?_⟩
  · have initial := grows carries.done
    rwa [part] at initial
  · have initial := grows carries.given
    rwa [whole] at initial
  · rw [given, List.length_append]
    omega

/-- TCP ends no stream early. A connection whose read was told the end of the stream has
dispatched, in order, every frame that the other side wrote completely, and beyond these at
most the one frame whose write was not completed. -/
theorem end_of_stream
    (reachable : Reachable registry codec what clientLimits serverLimits maximumStreamId session) :
    (session.server.port.ended = true →
      session.client.connection.writeQueue.completed <+: session.server.connection.dispatched ∧
        session.server.connection.dispatched <+: session.client.connection.sent ∧
        session.client.connection.sent.length ≤
          session.client.connection.writeQueue.completed.length + 1) ∧
      (session.client.port.ended = true →
        session.server.connection.writeQueue.completed <+: session.client.connection.dispatched ∧
          session.client.connection.dispatched <+: session.server.connection.sent ∧
          session.server.connection.sent.length ≤
            session.server.connection.writeQueue.completed.length + 1) := by
  have linked := reachable.linked
  have joined := linked.reached.joined
  constructor
  · intro gone
    have whole : session.server.connection.dispatched = _ := (linked.serverTold gone).2
    rw [whole]
    exact stream_frames linked.client.carries
      fun frame member => joined.client_valid frame (joined.client_sent.subset member)
  · intro gone
    have whole : session.client.connection.dispatched = _ := (linked.clientTold gone).2
    rw [whole]
    exact stream_frames linked.server.carries
      fun frame member => joined.server_valid frame (joined.server_sent.subset member)

theorem end_of_stream_closedMidway :
    ∃ session, closedMidway = some session ∧ session.server.port.ended = true ∧
      session.client.connection.writeQueue.completed.length = 1 ∧
      session.client.connection.sent.length = 2 ∧
      session.client.connection.writeQueue.completed = session.server.connection.dispatched := by
  have reads : closedMidway.map (fun session => (session.server.port.ended,
      session.client.connection.writeQueue.completed.length,
      session.server.connection.dispatched.length, session.client.connection.sent.length)) =
        some (true, 1, 1, 2) := by decide +kernel
  obtain ⟨session, reached, seen⟩ := Option.map_eq_some_iff.mp reads
  obtain ⟨gone, completed, dispatched, sent⟩ : session.server.port.ended = true ∧
    session.client.connection.writeQueue.completed.length = 1 ∧
    session.server.connection.dispatched.length = 1 ∧
    session.client.connection.sent.length = 2 := by simpa using seen
  obtain ⟨initial, -⟩ := (end_of_stream (Reachability.run_reaches _ _ _ _ _ reached)).1 gone
  exact ⟨session, reached, gone, completed, sent,
    initial.eq_of_length (completed.trans dispatched.symm)⟩

end Reached

end TcpSession

end Sessions

end Rillnet
