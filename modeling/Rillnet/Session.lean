import Rillnet.Delivery

/-!
# A client and a server joined by two byte streams

What one side gives to its open transport is read by the other in order, in
pieces of any length and at any later step; reading may also stop for good. Every
other event of the two connections is interleaved freely.

In every state the frames a side has dispatched are an initial part of those the
other side accepted, so a position among the dispatched frames is also a position
among the accepted ones, and neither decoder ever finds a malformed header.
-/

namespace Rillnet

open FrameGrammar (encodeFrames meaning)

section Sessions

variable {τ : Type} {ν : τ → Type}

/-- The two connections, and how many bytes each has read. -/
structure Session (ν : τ → Type) where
  client : ClientConnection ν
  server : ServerConnection ν
  upRead : Nat := 0
  downRead : Nat := 0

/-- What can happen next. -/
inductive SessionEvent (ν : τ → Type) where
  | client (event : ClientEvent ν)
  | server (event : ServerEvent ν)
  | serverReads (count : Nat)
  | clientReads (count : Nat)

namespace Session

/-- Two new connections. -/
def create (clientLimits serverLimits : WriteQueueLimits) (maximumStreamId : UInt64) :
    Session ν where
  client := ClientConnection.create clientLimits maximumStreamId
  server := ServerConnection.create serverLimits

/-- The bytes that follow those already read. -/
def transferred (frames : List Frame) (read count : Nat) : Buffer :=
  ((encodeFrames frames).drop read).take count

/-- Bytes come from the peer only. -/
def step [DecidableEq τ] (registry : MessageRegistry τ) (codec : Codec τ ν)
    (session : Session ν) : SessionEvent ν → Option (Session ν)
  | .client (.received _) => none
  | .client event =>
    (session.client.step registry codec event).map fun client => { session with client := client }
  | .server (.received _) => none
  | .server event =>
    (session.server.step registry codec event).map fun server => { session with server := server }
  | .serverReads count =>
    let bytes := transferred session.client.sent session.upRead count
    if bytes.length = count then
      (session.server.step registry codec (.received bytes)).map fun server =>
        { session with server := server, upRead := session.upRead + count }
    else none
  | .clientReads count =>
    let bytes := transferred session.server.sent session.downRead count
    if bytes.length = count then
      (session.client.step registry codec (.received bytes)).map fun client =>
        { session with client := client, downRead := session.downRead + count }
    else none

section Moves

variable [DecidableEq τ] (registry : MessageRegistry τ) (codec : Codec τ ν)

/-- The client moved, reading what the server's transport carried. -/
structure ClientMove (before after : Session ν) (event : ClientEvent ν) : Prop where
  stepped : before.client.step registry codec event = some after.client
  server : after.server = before.server
  upRead : after.upRead = before.upRead
  read : (encodeFrames before.server.sent).take after.downRead =
    (encodeFrames before.server.sent).take before.downRead ++ event.input
  bound : before.downRead ≤ (encodeFrames before.server.sent).length →
    after.downRead ≤ (encodeFrames before.server.sent).length

/-- The server moved, reading what the client's transport carried. -/
structure ServerMove (before after : Session ν) (event : ServerEvent ν) : Prop where
  stepped : before.server.step registry codec event = some after.server
  client : after.client = before.client
  downRead : after.downRead = before.downRead
  read : (encodeFrames before.client.sent).take after.upRead =
    (encodeFrames before.client.sent).take before.upRead ++ event.input
  bound : before.upRead ≤ (encodeFrames before.client.sent).length →
    after.upRead ≤ (encodeFrames before.client.sent).length

variable {registry codec}

/-- A read continues where the one before stopped. -/
theorem transferred_read {frames : List Frame} {read count : Nat}
    (full : (transferred frames read count).length = count) :
    (encodeFrames frames).take (read + count) =
        (encodeFrames frames).take read ++ transferred frames read count ∧
      (read ≤ (encodeFrames frames).length → read + count ≤ (encodeFrames frames).length) := by
  refine ⟨List.take_add, ?_⟩
  intro bound
  rw [transferred, List.length_take, List.length_drop] at full
  omega

/-- In every step one of the two sides moves. -/
theorem step_moves {session after : Session ν} {event : SessionEvent ν}
    (stepped : session.step registry codec event = some after) :
    (∃ move : ClientEvent ν, (event = .client move ∨ ∃ bytes, move = .received bytes) ∧
      ClientMove registry codec session after move) ∨
    (∃ move : ServerEvent ν, (event = .server move ∨ ∃ bytes, move = .received bytes) ∧
      ServerMove registry codec session after move) := by
  unfold step at stepped
  split at stepped
  · simp at stepped
  · rename_i move other
    obtain ⟨client, moved, rfl⟩ := Option.map_eq_some_iff.mp stepped
    have quiet : move.input = [] := by
      cases move with
      | received bytes => exact absurd rfl (other bytes)
      | _ => rfl
    exact Or.inl ⟨move, Or.inl rfl, moved, rfl, rfl, by simp [quiet], id⟩
  · simp at stepped
  · rename_i move other
    obtain ⟨server, moved, rfl⟩ := Option.map_eq_some_iff.mp stepped
    have quiet : move.input = [] := by
      cases move with
      | received bytes => exact absurd rfl (other bytes)
      | _ => rfl
    exact Or.inr ⟨move, Or.inl rfl, moved, rfl, rfl, by simp [quiet], id⟩
  · obtain ⟨full, read⟩ := Option.ite_none_right_eq_some.mp stepped
    obtain ⟨server, moved, rfl⟩ := Option.map_eq_some_iff.mp read
    obtain ⟨bytes, bound⟩ := transferred_read full
    exact Or.inr ⟨_, Or.inr ⟨_, rfl⟩, moved, rfl, rfl, bytes, bound⟩
  · obtain ⟨full, read⟩ := Option.ite_none_right_eq_some.mp stepped
    obtain ⟨client, moved, rfl⟩ := Option.map_eq_some_iff.mp read
    obtain ⟨bytes, bound⟩ := transferred_read full
    exact Or.inl ⟨_, Or.inr ⟨_, rfl⟩, moved, rfl, rfl, bytes, bound⟩

end Moves

/-- The two sides are in order, and each was fed what the other sent. -/
structure Joined (session : Session ν) : Prop where
  consistent : session.client.ledger.Consistent
  client : session.client.Wired
  server : session.server.Wired
  upBound : session.upRead ≤ (encodeFrames session.client.sent).length
  downBound : session.downRead ≤ (encodeFrames session.server.sent).length
  serverFed : session.server.shell.Fed ((encodeFrames session.client.sent).take session.upRead)
  clientFed : session.client.shell.Fed ((encodeFrames session.server.sent).take session.downRead)

/-- Two new connections have exchanged nothing. -/
theorem create_joined (clientLimits serverLimits : WriteQueueLimits) (maximumStreamId : UInt64) :
    (create clientLimits serverLimits maximumStreamId : Session ν).Joined where
  consistent := ClientConnection.create_consistent clientLimits maximumStreamId
  client := ClientConnection.create_wired clientLimits maximumStreamId
  server := ServerConnection.create_wired serverLimits
  upBound := Nat.zero_le _
  downBound := Nat.zero_le _
  serverFed := ⟨FrameGrammar.fresh_represents defaultMaxPayloadSize, List.prefix_rfl, fun _ _ => rfl⟩
  clientFed := ⟨FrameGrammar.fresh_represents defaultMaxPayloadSize, List.prefix_rfl, fun _ _ => rfl⟩

/-- Bytes that were read stay where they are when more frames are sent. -/
theorem take_encoded {earlier later : List Frame} (continued : earlier <+: later) {read : Nat}
    (bound : read ≤ (encodeFrames earlier).length) :
    (encodeFrames later).take read = (encodeFrames earlier).take read ∧
      read ≤ (encodeFrames later).length := by
  obtain ⟨more, rfl⟩ := continued
  have split : encodeFrames (earlier ++ more) = encodeFrames earlier ++ encodeFrames more := by
    simp [encodeFrames]
  rw [split, List.take_append_of_le_length bound, List.length_append]
  exact ⟨rfl, Nat.le_add_right_of_le bound⟩

section Preservation

variable [DecidableEq τ] {registry : MessageRegistry τ} {codec : Codec τ ν}
variable {before after : Session ν}

/-- A step of the client leaves the two ends joined. -/
theorem ClientMove.joined {event : ClientEvent ν} (move : ClientMove registry codec before after event)
    (joined : before.Joined) : after.Joined := by
  have turn := before.client.step_turn event after.client joined.consistent move.stepped
  have steps := before.client.step_steps event after.client joined.consistent move.stepped
  obtain ⟨kept, bound⟩ := take_encoded turn.sent_grows joined.upBound
  constructor
  · exact steps.consistent joined.consistent
  · exact joined.client.step joined.consistent move.stepped
  · rw [move.server]
    exact joined.server
  · rw [move.upRead]
    exact bound
  · rw [move.server]
    exact move.bound joined.downBound
  · rw [move.server, move.upRead]
    exact kept ▸ joined.serverFed
  · rw [move.server, move.read]
    exact turn.fed joined.clientFed

/-- A step of the server leaves the two ends joined. -/
theorem ServerMove.joined {event : ServerEvent ν} (move : ServerMove registry codec before after event)
    (joined : before.Joined) : after.Joined := by
  have turn := before.server.step_turn event after.server move.stepped
  obtain ⟨kept, bound⟩ := take_encoded turn.sent_grows joined.downBound
  constructor
  · rw [move.client]
    exact joined.consistent
  · rw [move.client]
    exact joined.client
  · exact joined.server.step move.stepped
  · rw [move.client]
    exact move.bound joined.upBound
  · rw [move.downRead]
    exact bound
  · rw [move.client, move.read]
    exact turn.fed joined.serverFed
  · rw [move.client, move.downRead]
    exact kept ▸ joined.clientFed

/-- Every step keeps the two sides joined. -/
theorem Joined.step {event : SessionEvent ν} (joined : before.Joined)
    (stepped : before.step registry codec event = some after) : after.Joined := by
  rcases step_moves stepped with ⟨move, -, moved⟩ | ⟨move, -, moved⟩
  · exact moved.joined joined
  · exact moved.joined joined

variable (registry codec) in
/-- The states two new connections reach in the runs a guard allows. -/
def Reachable (guard : Session ν → SessionEvent ν → Prop) (clientLimits serverLimits : WriteQueueLimits)
    (maximumStreamId : UInt64) : Session ν → Prop :=
  Reachability.Reaches (step registry codec) guard
    (create clientLimits serverLimits maximumStreamId)

/-- The client of a session runs like any client. -/
theorem Reachable.clientRun {guard : Session ν → SessionEvent ν → Prop}
    {clientLimits serverLimits : WriteQueueLimits} {maximumStreamId : UInt64} {session : Session ν}
    (reachable : Reachable registry codec guard clientLimits serverLimits maximumStreamId session) :
    ClientConnection.Reachable registry codec Reachability.unguarded clientLimits maximumStreamId
      session.client := by
  apply Reachability.Reaches.invariant (fun session : Session ν =>
    ClientConnection.Reachable registry codec Reachability.unguarded clientLimits maximumStreamId
      session.client) ?_ ?_ reachable
  · exact .start
  intro before event after reached _ stepped
  rcases step_moves stepped with ⟨move, -, moved⟩ | ⟨move, -, moved⟩
  · exact .next reached trivial moved.stepped
  · rw [moved.client]
    exact reached

/-- In every reachable state each end has read what the other sent, in order. -/
theorem Reachable.joined {guard : Session ν → SessionEvent ν → Prop}
    {clientLimits serverLimits : WriteQueueLimits} {maximumStreamId : UInt64} {session : Session ν}
    (reachable : Reachable registry codec guard clientLimits serverLimits maximumStreamId session) :
    session.Joined := by
  apply Reachability.Reaches.invariant Joined
    (create_joined clientLimits serverLimits maximumStreamId) ?_ reachable
  intro before event after joined _ stepped
  exact joined.step stepped

end Preservation

section Traffic

variable {session : Session ν} (joined : session.Joined)
include joined

/-- What a side sent is an initial part of what its queue accepted. -/
theorem Joined.client_sent : session.client.sent <+: session.client.writeQueue.accepted :=
  joined.client.transmits.initial.trans joined.client.conserves.written_initial

/-- The server sends what its queue accepted, in order. -/
theorem Joined.server_sent : session.server.sent <+: session.server.writeQueue.accepted :=
  joined.server.transmits.initial.trans joined.server.conserves.written_initial

/-- The client accepts valid frames only. -/
theorem Joined.client_valid : ∀ frame ∈ session.client.writeQueue.accepted,
    validateFrame frame = .none :=
  fun frame member => (joined.client.outgoing frame member).valid joined.consistent

/-- The server accepts valid frames only. -/
theorem Joined.server_valid : ∀ frame ∈ session.server.writeQueue.accepted,
    validateFrame frame = .none :=
  joined.server.sound.valid fun _ member => joined.serverFed.valid member

end Traffic

/-- A shell fed an initial part of the encoding of valid frames dispatches an
initial part of the frames and finds nothing malformed. -/
theorem fed_frames {shell : ConnectionShell} {frames : List Frame} {read : Nat}
    (valid : ∀ frame ∈ frames, validateFrame frame = .none)
    (fed : shell.Fed ((encodeFrames frames).take read)) :
    shell.dispatched ++ shell.reader.batch <+: frames ∧ shell.decoder.error = none := by
  have initial : (encodeFrames frames).take read <+: encodeFrames frames := List.take_prefix _ _
  obtain ⟨count, -, output, -⟩ :=
    FrameGrammar.meaning_initial_part defaultMaxPayloadSize frames valid _ initial
  constructor
  · exact fed.initial.trans (output ▸ List.take_prefix count frames)
  · obtain ⟨error, -⟩ := FrameGrammar.represents_observed _ _ _ fed.represented
    exact error.trans
      (FrameGrammar.meaning_initial_sound defaultMaxPayloadSize frames valid _ initial)

section Traffic

variable {session : Session ν} (joined : session.Joined)
include joined

/-- What the server dispatched and is about to dispatch was sent by the client. -/
theorem Joined.up : session.server.dispatched ++ session.server.reader.batch <+:
      session.client.sent ∧ session.server.decoder.error = none :=
  fed_frames (fun frame member => joined.client_valid frame (joined.client_sent.subset member))
    joined.serverFed

/-- What the client dispatched and is about to dispatch was sent by the server. -/
theorem Joined.down : session.client.dispatched ++ session.client.reader.batch <+:
      session.server.sent ∧ session.client.decoder.error = none :=
  fed_frames (fun frame member => joined.server_valid frame (joined.server_sent.subset member))
    joined.clientFed

/-- The next frame of a batch is the next accepted frame of the other side. -/
theorem Joined.up_next {frame : Frame} {rest : List Frame}
    (reading : session.server.reader = .dispatching (frame :: rest)) :
    session.server.dispatched ++ [frame] <+: session.client.sent := by
  have initial := joined.up.1
  rw [reading] at initial
  refine List.IsPrefix.trans ⟨rest, ?_⟩ initial
  simp [Reader.batch]

/-- The frame a client dispatches next is the next one the server sent. -/
theorem Joined.down_next {frame : Frame} {rest : List Frame}
    (reading : session.client.reader = .dispatching (frame :: rest)) :
    session.client.dispatched ++ [frame] <+: session.server.sent := by
  have initial := joined.down.1
  rw [reading] at initial
  refine List.IsPrefix.trans ⟨rest, ?_⟩ initial
  simp [Reader.batch]

/-- The server dispatches what the client accepted, in order. -/
theorem Joined.up_dispatched :
    session.server.dispatched <+: session.client.writeQueue.accepted :=
  ((List.prefix_append _ _).trans joined.up.1).trans joined.client_sent

/-- The client dispatches what the server accepted, in order. -/
theorem Joined.down_dispatched :
    session.client.dispatched <+: session.server.writeQueue.accepted :=
  ((List.prefix_append _ _).trans joined.down.1).trans joined.server_sent

end Traffic

end Session

end Sessions

end Rillnet
