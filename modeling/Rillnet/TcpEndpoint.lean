import Rillnet.TcpTransport
import Rillnet.FrameGrammar

/-!
# A connection on a TCP transport

A connection calls its transport and is told the outcomes: a read returned bytes, the
end of the stream or an error, a write is complete or failed. `Endpoint` is what the
transport sees of a connection, client or server, and `Lawful` is how the steps of the
connection change it. A connection attached to a transport takes its own steps; the
outcomes come from the transport only, whose operations the system completes.

The bytes the system took from an attached connection stand in a stream that the other
side reads from. The system hands them over in order, and reports the end of the stream
only once the other side has closed its socket and everything was handed over. It may
fail an operation at any time.
-/

namespace Rillnet

open FrameGrammar (encodeFrames)

/-- What a transport sees of a connection: whether the connection still uses it, whether
a read is awaited, the frame that is being written, the frames given to an open transport
and those written completely; and the events that tell the connection an outcome. -/
structure Endpoint (σ ε : Type) where
  step : σ → ε → Option σ
  transportOpen : σ → Bool
  awaiting : σ → Bool
  underWrite : σ → Option Frame
  sent : σ → List Frame
  completed : σ → List Frame
  own : ε → Bool
  received : Buffer → ε
  endOfFile : Bool → ε
  readFailed : Bool → ε
  resumeWriter : ε
  writeCompleted : ε
  writeFailed : String → ε

section Endpoints

variable {σ ε : Type}

/-- What the writer sees is not changed. -/
structure Endpoint.SameWrites (endpoint : Endpoint σ ε) (before after : σ) : Prop where
  underWrite : endpoint.underWrite after = endpoint.underWrite before
  sent : endpoint.sent after = endpoint.sent before
  completed : endpoint.completed after = endpoint.completed before

/-- How the steps of a connection change what its transport sees. -/
structure Endpoint.Lawful (endpoint : Endpoint σ ε) (valid : σ → Prop) : Prop where
  kept : ∀ before event after, valid before → endpoint.step before event = some after → valid after
  apart : ∀ event bytes, endpoint.own event = true ∨ event = endpoint.resumeWriter ∨
    event = endpoint.writeCompleted ∨ (∃ what, event = endpoint.writeFailed what) ∨
    (∃ closes, event = endpoint.endOfFile closes ∨ event = endpoint.readFailed closes) →
    event ≠ endpoint.received bytes
  owns : ∀ before event after, valid before → endpoint.own event = true →
    endpoint.step before event = some after → endpoint.SameWrites before after ∧
      (endpoint.transportOpen after = true → endpoint.transportOpen before = true) ∧
      (endpoint.awaiting before = true → endpoint.awaiting after = true) ∧
      (endpoint.awaiting after = true → endpoint.awaiting before = false →
        endpoint.transportOpen after = true)
  receives : ∀ before bytes after, valid before →
    endpoint.step before (endpoint.received bytes) = some after →
      endpoint.SameWrites before after ∧ endpoint.awaiting after = false ∧
      endpoint.transportOpen after = endpoint.transportOpen before
  ends : ∀ before closes after, valid before →
    endpoint.step before (endpoint.endOfFile closes) = some after ∨
      endpoint.step before (endpoint.readFailed closes) = some after →
    endpoint.SameWrites before after ∧ endpoint.awaiting after = false ∧
      endpoint.transportOpen after = (endpoint.transportOpen before && !closes)
  resumes : ∀ before after, valid before →
    endpoint.step before endpoint.resumeWriter = some after →
      endpoint.awaiting after = endpoint.awaiting before ∧
      endpoint.transportOpen after = endpoint.transportOpen before ∧
      endpoint.completed after = endpoint.completed before ∧ endpoint.underWrite before = none ∧
      (endpoint.underWrite after = none ∧ endpoint.sent after = endpoint.sent before ∨
        ∃ frame, endpoint.underWrite after = some frame ∧ endpoint.sent after =
          if endpoint.transportOpen before then endpoint.sent before ++ [frame]
          else endpoint.sent before)
  completes : ∀ before after, valid before →
    endpoint.step before endpoint.writeCompleted = some after →
      ∃ frame, endpoint.underWrite before = some frame ∧ endpoint.underWrite after = none ∧
        endpoint.completed after = endpoint.completed before ++ [frame] ∧
        endpoint.sent after = endpoint.sent before ∧
        endpoint.awaiting after = endpoint.awaiting before ∧
        endpoint.transportOpen after = endpoint.transportOpen before
  fails : ∀ before what after, valid before →
    endpoint.step before (endpoint.writeFailed what) = some after →
      endpoint.underWrite after = none ∧ endpoint.completed after = endpoint.completed before ∧
        endpoint.sent after = endpoint.sent before ∧
        endpoint.awaiting after = endpoint.awaiting before ∧ endpoint.transportOpen after = false

/-- One side of a TCP connection: the transport, the bytes the system took from it, how
many bytes of the other side were handed to its reads and returned by them, and whether a
read reported the end of the stream. -/
structure TcpPort where
  transport : TcpTransport := {}
  outgoing : Buffer := []
  arrived : Nat := 0
  consumed : Nat := 0
  ended : Bool := false

/-- A connection attached to its side of a TCP connection. -/
structure Attached (σ : Type) where
  connection : σ
  port : TcpPort := {}

/-- What can happen next at an attached connection. -/
inductive PortEvent (ε : Type) where
  | own (event : ε)
  | resumeWriter
  | resumeRead
  | resumeWrite
  | transmits (count : Nat)
  | arrives (count : Nat)
  | ends
  | readBreaks (error : SocketError)
  | writeBreaks (error : SocketError)

/-- The size of the buffer of the read loops. -/
def readBufferSize : Nat := 4096

/-- The calls a step of the connection makes: it may close the transport, or begin a
read. -/
def TcpPort.heeds (port : TcpPort) (usable reads : Bool) : TcpPort :=
  let transport := if usable then port.transport else port.transport.close
  { port with transport := if reads then (transport.read readBufferSize).1 else transport }

/-- The bytes handed to a read that has not returned yet. -/
def TcpPort.carried (port : TcpPort) : Buffer :=
  (port.transport.reading.map ReadCall.carried).getD []

namespace Attached

variable (endpoint : Endpoint σ ε) (what : SocketError → String)

/-- A step of the connection, with the calls it makes. -/
def act (attached : Attached σ) (event : ε) : Option (Attached σ) :=
  (endpoint.step attached.connection event).map fun after =>
    { connection := after
      port := attached.port.heeds (endpoint.transportOpen after)
        (endpoint.awaiting after && !endpoint.awaiting attached.connection) }

def withTransport (attached : Attached σ) (transport : TcpTransport) : Attached σ :=
  { attached with port := { attached.port with transport := transport } }

/-- The resumed writer gives the frame in its hand to `write`, which may throw at once. -/
def giveFrame (attached : Attached σ) : Option (Attached σ) :=
  match endpoint.underWrite attached.connection with
  | none => some attached
  | some frame =>
    match attached.port.transport.write (encodeFrame frame) with
    | (transport, none) => some (attached.withTransport transport)
    | (transport, some error) =>
      (attached.withTransport transport).act endpoint (endpoint.writeFailed (what error))

/-- The read loop goes on with the outcome of its read. -/
def readReturns (attached : Attached σ) (transport : TcpTransport) :
    Except SocketError Buffer → Option (Attached σ)
  | .ok [] =>
    act endpoint { attached with
      port := { attached.port with transport := transport, ended := true } }
      (endpoint.endOfFile !transport.isOpen)
  | .ok bytes =>
    act endpoint { attached with
      port := { attached.port with
        transport := transport
        consumed := attached.port.consumed + bytes.length } }
      (endpoint.received bytes)
  | .error _ => (attached.withTransport transport).act endpoint (endpoint.readFailed !transport.isOpen)

/-- The writer goes on with the outcome of its write, once there is one. -/
def writeReturns (attached : Attached σ) (transport : TcpTransport) :
    Option (Except SocketError Unit) → Option (Attached σ)
  | none => some (attached.withTransport transport)
  | some (.ok ()) => (attached.withTransport transport).act endpoint endpoint.writeCompleted
  | some (.error error) =>
    (attached.withTransport transport).act endpoint (endpoint.writeFailed (what error))

/-- One step of an attached connection, with the other side of the TCP connection. -/
def step (peer : TcpPort) (attached : Attached σ) : PortEvent ε → Option (Attached σ)
  | .own event => if endpoint.own event then attached.act endpoint event else none
  | .resumeWriter => (attached.act endpoint endpoint.resumeWriter).bind (giveFrame endpoint what)
  | .resumeRead =>
    attached.port.transport.resumeRead.bind fun (transport, outcome) =>
      attached.readReturns endpoint transport outcome
  | .resumeWrite =>
    attached.port.transport.resumeWrite.bind fun (transport, outcome) =>
      attached.writeReturns endpoint what transport outcome
  | .transmits count =>
    (attached.port.transport.transmits count).map fun (transport, bytes) =>
      { attached with port := { attached.port with
        transport := transport
        outgoing := attached.port.outgoing ++ bytes } }
  | .arrives count =>
    let bytes := (peer.outgoing.drop attached.port.arrived).take count
    if bytes.length = count then
      (attached.port.transport.arrives bytes).map fun transport =>
        { attached with port := { attached.port with
          transport := transport
          arrived := attached.port.arrived + count } }
    else none
  | .ends =>
    if !peer.transport.socketOpen && decide (attached.port.arrived = peer.outgoing.length) then
      (attached.port.transport.readBreaks .eof).map attached.withTransport
    else none
  | .readBreaks error =>
    if error = .eof then none
    else (attached.port.transport.readBreaks error).map attached.withTransport
  | .writeBreaks error =>
    (attached.port.transport.writeBreaks error).map attached.withTransport

end Attached

/-- The stream of a port holds the frames written completely and a part of the one being
written, and a suspended `write` is about that frame. At most one frame is given to the
transport and not written completely. -/
structure TcpPort.Carries (port : TcpPort) (underWrite : Option Frame) (sent completed : List Frame) :
    Prop where
  idle : port.transport.writing = none → underWrite = none
  busy : ∀ call, port.transport.writing = some call → ∃ frame, underWrite = some frame ∧
    call.buffer = encodeFrame frame ∧ sent = completed ++ [frame] ∧
    port.outgoing = encodeFrames completed ++ (encodeFrame frame).take call.taken
  settled : port.transport.writing = none → port.transport.open_ = true →
    sent = completed ∧ port.outgoing = encodeFrames completed
  done : encodeFrames completed <+: port.outgoing
  given : port.outgoing <+: encodeFrames sent
  last : ∃ rest : List Frame, sent = completed ++ rest ∧ rest.length ≤ 1

namespace TcpPort.Carries

variable {port after : TcpPort} {underWrite : Option Frame} {sent completed : List Frame}
variable (carries : port.Carries underWrite sent completed)
include carries

/-- Only the write that is suspended and the stream matter. -/
theorem kept (outgoing : after.outgoing = port.outgoing)
    (writing : after.transport.writing = port.transport.writing)
    (opened : after.transport.open_ = true → port.transport.open_ = true) :
    after.Carries underWrite sent completed where
  idle := by rw [writing]; exact carries.idle
  busy := by rw [writing, outgoing]; exact carries.busy
  settled := by
    intro gone usable
    rw [writing] at gone
    rw [outgoing]
    exact carries.settled gone (opened usable)
  done := by rw [outgoing]; exact carries.done
  given := by rw [outgoing]; exact carries.given
  last := carries.last

theorem close : { port with transport := port.transport.close }.Carries underWrite sent completed := by
  have suspended : ∀ call, port.transport.close.writing = some call →
      ∃ earlier, port.transport.writing = some earlier ∧ call.buffer = earlier.buffer ∧
        call.taken = earlier.taken := by
    intro call found
    unfold TcpTransport.close at found
    split at found
    · obtain ⟨earlier, present, rfl⟩ := Option.map_eq_some_iff.mp found
      exact ⟨earlier, present, rfl, TcpTransport.abort_taken earlier⟩
    · exact ⟨call, found, rfl, rfl⟩
  refine ⟨?_, ?_, ?_, carries.done, carries.given, carries.last⟩
  · intro gone
    apply carries.idle
    cases found : port.transport.writing with
    | none => rfl
    | some call =>
      simp only [TcpTransport.close] at gone
      split at gone
      · simp [TcpTransport.releaseSocket, found] at gone
      · simp [found] at gone
  · intro call found
    obtain ⟨earlier, present, buffer, taken⟩ := suspended call found
    rw [buffer, taken]
    exact carries.busy earlier present
  · intro _ usable
    simp at usable

theorem heeds (usable reads : Bool) : (port.heeds usable reads).Carries underWrite sent completed := by
  have closed : { port with transport := if usable then port.transport
      else port.transport.close }.Carries underWrite sent completed := by
    split
    · exact carries
    · exact carries.close
  unfold TcpPort.heeds
  dsimp only
  split
  · refine closed.kept rfl ?_ ?_
    · exact TcpTransport.read_writing _
    · rw [TcpTransport.read_open]
      exact id
  · exact closed

/-- A frame given to an open transport is the next one in the stream. -/
theorem begins (gone : port.transport.writing = none) (opened : port.transport.open_ = true)
    (frame : Frame) :
    { port with transport := port.transport.writeSome (encodeFrame frame) 0 }.Carries
      (some frame) (sent ++ [frame]) completed := by
  obtain ⟨whole, stream⟩ := carries.settled gone opened
  obtain ⟨operation, begun, nothing⟩ := port.transport.writeSome_begins (encodeFrame frame) 0
  refine ⟨?_, ?_, ?_, carries.done, ?_, [frame], by rw [whole], by simp⟩
  · intro vacant
    simp [begun] at vacant
  · intro call found
    obtain rfl := Option.some.inj (begun.symm.trans found)
    refine ⟨frame, rfl, rfl, by rw [whole], ?_⟩
    rw [nothing, List.take_zero, List.append_nil]
    exact stream
  · intro vacant
    simp [begun] at vacant
  · exact carries.given.trans (by simp [encodeFrames])

/-- A partial write follows with what is left of the frame. -/
theorem goesOn {call : WriteCall} (found : port.transport.writing = some call) :
    { port with
      transport := { port.transport with writing := none }.writeSome call.buffer call.taken
      }.Carries underWrite sent completed := by
  obtain ⟨operation, begun, nothing⟩ := TcpTransport.writeSome_begins
    { port.transport with writing := none } call.buffer call.taken
  refine ⟨?_, ?_, ?_, carries.done, carries.given, carries.last⟩
  · intro vacant
    simp [begun] at vacant
  · intro next present
    obtain rfl := Option.some.inj (begun.symm.trans present)
    rw [nothing]
    exact carries.busy call found
  · intro vacant
    simp [begun] at vacant

/-- The frame of a `write` that took its whole buffer is written completely. -/
theorem completes {call : WriteCall} (found : port.transport.writing = some call)
    (whole : call.buffer.length ≤ call.taken) {frame : Frame} (writing : underWrite = some frame) :
    { port with transport := { port.transport with writing := none } }.Carries
      none sent (completed ++ [frame]) := by
  obtain ⟨same, writes, buffer, given, stream⟩ := carries.busy call found
  obtain rfl : frame = same := Option.some.inj (writing.symm.trans writes)
  rw [buffer] at whole
  rw [List.take_of_length_le whole] at stream
  have stream : port.outgoing = encodeFrames (completed ++ [frame]) := by
    simp [stream, encodeFrames]
  exact ⟨fun _ => rfl, by simp, fun _ _ => ⟨given, stream⟩, stream ▸ List.prefix_rfl, carries.given,
    [], by simp [given], by simp⟩

/-- The system takes some bytes of the frame. -/
theorem transmits {transport : TcpTransport} {count : Nat} {bytes : Buffer}
    (transmitted : port.transport.transmits count = some (transport, bytes)) :
    { port with transport := transport, outgoing := port.outgoing ++ bytes }.Carries
      underWrite sent completed := by
  obtain ⟨buffer, transferred, found, -, bound, rfl, rfl⟩ :=
    TcpTransport.transmits_cases transmitted
  obtain ⟨frame, writes, same, given, stream⟩ := carries.busy _ found
  have same : buffer = encodeFrame frame := same
  subst same
  have stream : port.outgoing ++ ((encodeFrame frame).drop transferred).take count =
      encodeFrames completed ++ (encodeFrame frame).take (transferred + count) := by
    rw [stream, List.append_assoc, List.take_add]
    rfl
  refine ⟨nofun, ?_, nofun, carries.done.trans (List.prefix_append _ _), ?_, carries.last⟩
  · intro call present
    obtain rfl := Option.some.inj present
    exact ⟨frame, writes, rfl, given, stream⟩
  · dsimp only
    rw [stream, given]
    simp [encodeFrames, List.take_prefix]

/-- The system fails the partial write that is in progress. -/
theorem breaks {transport : TcpTransport} {error : SocketError}
    (broken : port.transport.writeBreaks error = some transport) :
    { port with transport := transport }.Carries underWrite sent completed := by
  obtain ⟨buffer, transferred, found, rfl⟩ := TcpTransport.writeBreaks_cases broken
  refine ⟨nofun, ?_, nofun, carries.done, carries.given, carries.last⟩
  intro call present
  obtain rfl := Option.some.inj present
  exact carries.busy ⟨buffer, transferred, .pending⟩ found

end TcpPort.Carries

/-- The transport agrees with the connection attached to it: it is open exactly while the
connection uses it, it reads exactly while the connection awaits a read, and it writes what
the connection gives it. -/
structure Attached.Plugged (endpoint : Endpoint σ ε) (attached : Attached σ) : Prop where
  sound : attached.port.transport.Sound
  usable : endpoint.transportOpen attached.connection = attached.port.transport.open_
  reading : attached.port.transport.reading.isSome = endpoint.awaiting attached.connection
  sized : ∀ call, attached.port.transport.reading = some call → call.size = readBufferSize
  carries : attached.port.Carries (endpoint.underWrite attached.connection)
    (endpoint.sent attached.connection) (endpoint.completed attached.connection)

/-- A transport that heeds the calls of a step agrees with the connection after it. -/
theorem TcpPort.heeds_plugged (endpoint : Endpoint σ ε) (after : σ) (port : TcpPort) (begins : Bool)
    (sound : port.transport.Sound)
    (opens : endpoint.transportOpen after = true → port.transport.open_ = true)
    (sized : ∀ call, port.transport.reading = some call → call.size = readBufferSize)
    (reads : begins = true → endpoint.transportOpen after = true ∧ endpoint.awaiting after = true)
    (stays : begins = false → port.transport.reading.isSome = endpoint.awaiting after)
    (carries : port.Carries (endpoint.underWrite after) (endpoint.sent after)
      (endpoint.completed after)) :
    Attached.Plugged endpoint
      ⟨after, port.heeds (endpoint.transportOpen after) begins⟩ := by
  have carried := carries.heeds (endpoint.transportOpen after) begins
  cases begins with
  | true =>
    obtain ⟨usable, awaiting⟩ := reads rfl
    have opened := opens usable
    have isOpen : port.transport.isOpen = true := sound.isOpen.trans opened
    have transport : (port.heeds (endpoint.transportOpen after) true).transport =
        (port.transport.read readBufferSize).1 := by
      simp [TcpPort.heeds, usable]
    refine ⟨?_, ?_, ?_, ?_, carried⟩
    · dsimp only
      rw [transport]
      exact sound.read readBufferSize
    · dsimp only
      rw [transport, TcpTransport.read_open, usable, opened]
    · dsimp only
      rw [transport, awaiting]
      simp [TcpTransport.read, isOpen]
    · intro call found
      dsimp only at found
      rw [transport] at found
      simp only [TcpTransport.read, isOpen, if_true] at found
      obtain rfl := Option.some.inj found
      rfl
  | false =>
    cases usable : endpoint.transportOpen after with
    | true =>
      have transport : (port.heeds true false).transport = port.transport := by
        simp [TcpPort.heeds]
      rw [usable] at carried
      exact ⟨by rw [transport]; exact sound, by rw [transport, usable, opens usable],
        by rw [transport]; exact stays rfl, by rw [transport]; exact sized, carried⟩
    | false =>
      have transport : (port.heeds false false).transport = port.transport.close := by
        simp [TcpPort.heeds]
      rw [usable] at carried
      refine ⟨by rw [transport]; exact sound.close, ?_, ?_, ?_, carried⟩
      · dsimp only
        rw [transport, usable, TcpTransport.close_open]
      · dsimp only
        rw [transport, TcpTransport.close_reading_isSome]
        exact stays rfl
      · dsimp only
        rw [transport]
        exact TcpTransport.close_reading_size sized

/-- The end of the stream was reported to a read that has not returned yet. -/
def TcpTransport.EndPosted (transport : TcpTransport) : Prop :=
  ∃ size, transport.reading = some ⟨size, .completed (.error .eof)⟩

/-- What one side reads is what the other side's system took, in order, and the end of the
stream is the end of all of it. -/
structure TcpPort.Reads (port peer : TcpPort) : Prop where
  within : port.arrived ≤ peer.outgoing.length
  count : port.consumed + port.carried.length = port.arrived
  order : port.carried = (peer.outgoing.drop port.consumed).take port.carried.length
  ending : port.transport.EndPosted →
    peer.transport.open_ = false ∧ port.arrived = peer.outgoing.length
  ended : port.ended = true → peer.transport.open_ = false ∧ port.consumed = peer.outgoing.length

namespace TcpPort.Reads

variable {port peer after : TcpPort} (reads : port.Reads peer)
include reads

/-- Only what the suspended read carries matters. -/
theorem kept (carried : after.carried = port.carried) (arrived : after.arrived = port.arrived)
    (consumed : after.consumed = port.consumed) (ended : after.ended = port.ended)
    (ending : after.transport.EndPosted → port.transport.EndPosted) : after.Reads peer where
  within := by rw [arrived]; exact reads.within
  count := by rw [carried, consumed, arrived]; exact reads.count
  order := by rw [carried, consumed]; exact reads.order
  ending := by rw [arrived]; exact fun posted => reads.ending (ending posted)
  ended := by rw [ended, consumed]; exact reads.ended

theorem close : { port with transport := port.transport.close }.Reads peer := by
  refine reads.kept TcpTransport.close_carried rfl rfl rfl ?_
  rintro ⟨size, posted⟩
  dsimp only at posted
  unfold TcpTransport.close at posted
  split at posted
  · obtain ⟨call, found, same⟩ := Option.map_eq_some_iff.mp posted
    obtain ⟨size, operation⟩ := call
    cases operation with
    | pending => simp [SocketOperation.abort] at same
    | completed outcome =>
      obtain ⟨rfl, rfl⟩ : size = _ ∧ outcome = .error .eof := by
        simpa [SocketOperation.abort] using same
      exact ⟨size, found⟩
  · exact ⟨size, posted⟩

/-- A read that begins carries nothing. -/
theorem begins (idle : port.transport.reading = none) :
    { port with transport := (port.transport.read readBufferSize).1 }.Reads peer := by
  by_cases usable : port.transport.isOpen = true
  · refine reads.kept ?_ rfl rfl rfl ?_
    · simp [TcpPort.carried, TcpTransport.read, usable, idle, ReadCall.carried, readBufferSize]
    · rintro ⟨size, posted⟩
      simp [TcpTransport.read, usable, readBufferSize] at posted
  · simp only [TcpTransport.read, usable, Bool.false_eq_true, if_false]
    exact reads

/-- A read begins only while none is suspended. -/
theorem heeds (usable begins : Bool) (idle : begins = true → port.transport.reading = none) :
    (port.heeds usable begins).Reads peer := by
  unfold TcpPort.heeds
  dsimp only
  split
  · rename_i fresh
    split
    · exact reads.begins (idle fresh)
    · exact reads.close.begins (TcpTransport.close_reading_none (idle fresh))
  · split
    · exact reads
    · exact reads.close

/-- The other side goes on: its stream only grows, and no more once its socket is
closed. -/
theorem follows {later : TcpPort} (grows : peer.outgoing <+: later.outgoing)
    (shut : peer.transport.open_ = false →
      later.transport.open_ = false ∧ later.outgoing = peer.outgoing) : port.Reads later := by
  obtain ⟨more, stream⟩ := grows
  have within := reads.within
  have bound : port.consumed + port.carried.length ≤ peer.outgoing.length := by
    rw [reads.count]
    exact within
  refine ⟨?_, reads.count, ?_, ?_, ?_⟩
  · rw [← stream, List.length_append]
    omega
  · rw [← stream, List.drop_append_of_le_length (by omega), List.take_append_of_le_length]
    · exact reads.order
    · rw [List.length_drop]
      omega
  · intro posted
    obtain ⟨closed, arrived⟩ := reads.ending posted
    obtain ⟨stays, same⟩ := shut closed
    exact ⟨stays, by rw [same]; exact arrived⟩
  · intro gone
    obtain ⟨closed, consumed⟩ := reads.ended gone
    obtain ⟨stays, same⟩ := shut closed
    exact ⟨stays, by rw [same]; exact consumed⟩

end TcpPort.Reads

namespace Attached

variable {endpoint : Endpoint σ ε} {valid : σ → Prop} {attached after : Attached σ}
variable {what : SocketError → String}

/-- A step that begins no read. -/
theorem act_plugged {event : ε} (acted : attached.act endpoint event = some after)
    (sound : attached.port.transport.Sound)
    (sized : ∀ call, attached.port.transport.reading = some call → call.size = readBufferSize)
    (opens : endpoint.transportOpen after.connection = true → attached.port.transport.open_ = true)
    (stays : endpoint.awaiting after.connection = true → endpoint.awaiting attached.connection = true)
    (reading : attached.port.transport.reading.isSome = endpoint.awaiting after.connection)
    (carries : attached.port.Carries (endpoint.underWrite after.connection)
      (endpoint.sent after.connection) (endpoint.completed after.connection)) :
    after.Plugged endpoint := by
  obtain ⟨connection, stepped, rfl⟩ := Option.map_eq_some_iff.mp acted
  have none : (endpoint.awaiting connection && !endpoint.awaiting attached.connection) = false := by
    cases awaiting : endpoint.awaiting connection with
    | false => rfl
    | true => simp [stays awaiting]
  rw [none]
  exact TcpPort.heeds_plugged endpoint connection attached.port false sound opens sized nofun
    (fun _ => reading) carries

/-- A read returned, and the connection no longer awaits it. -/
theorem act_readOver {port : TcpPort} {event : ε}
    (acted : act endpoint { attached with port := port } event = some after)
    (sound : port.transport.Sound) (gone : port.transport.reading = none)
    (carries : port.Carries (endpoint.underWrite attached.connection)
      (endpoint.sent attached.connection) (endpoint.completed attached.connection))
    (same : endpoint.SameWrites attached.connection after.connection)
    (awaiting : endpoint.awaiting after.connection = false)
    (opens : endpoint.transportOpen after.connection = true → port.transport.open_ = true) :
    after.Plugged endpoint := by
  refine act_plugged acted sound ?_ opens ?_ ?_ ?_
  · intro call found
    simp [gone] at found
  · intro reads
    simp [awaiting] at reads
  · simp [gone, awaiting]
  · rw [same.underWrite, same.sent, same.completed]
    exact carries

/-- A step of an attached connection is a step of the connection. -/
theorem act_stepped {event : ε} (acted : attached.act endpoint event = some after) :
    endpoint.step attached.connection event = some after.connection := by
  obtain ⟨connection, stepped, rfl⟩ := Option.map_eq_some_iff.mp acted
  exact stepped

/-- A write failed, and the connection goes on without it. -/
theorem act_writeLost (lawful : endpoint.Lawful valid) (isValid : valid attached.connection)
    {message : String} (acted : attached.act endpoint (endpoint.writeFailed message) = some after)
    (sound : attached.port.transport.Sound)
    (sized : ∀ call, attached.port.transport.reading = some call → call.size = readBufferSize)
    (reading : attached.port.transport.reading.isSome = endpoint.awaiting attached.connection)
    (gone : attached.port.transport.writing = none)
    (shut : attached.port.transport.open_ = false)
    (done : encodeFrames (endpoint.completed attached.connection) <+: attached.port.outgoing)
    (given : attached.port.outgoing <+: encodeFrames (endpoint.sent attached.connection))
    (last : ∃ rest : List Frame, endpoint.sent attached.connection =
      endpoint.completed attached.connection ++ rest ∧ rest.length ≤ 1) :
    after.Plugged endpoint := by
  obtain ⟨idle, completed, sent, awaiting, usable⟩ :=
    lawful.fails _ _ _ isValid (act_stepped acted)
  refine act_plugged acted sound sized ?_ ?_ ?_ ?_
  · simp [usable]
  · rw [awaiting]
    exact id
  · rw [awaiting]
    exact reading
  · rw [idle, completed, sent]
    refine ⟨fun _ => rfl, ?_, ?_, done, given, last⟩
    · intro call found
      simp [gone] at found
    · intro _ opened
      simp [shut] at opened

section Steps

variable (lawful : endpoint.Lawful valid) (isValid : valid attached.connection)
  (plugged : attached.Plugged endpoint)
include lawful isValid plugged

/-- The connection's own steps: they may begin a read on an open transport. -/
theorem Plugged.own {event : ε} (own : endpoint.own event = true)
    (acted : attached.act endpoint event = some after) : after.Plugged endpoint := by
  obtain ⟨connection, stepped, rfl⟩ := Option.map_eq_some_iff.mp acted
  obtain ⟨same, opens, persists, begins⟩ := lawful.owns _ _ _ isValid own stepped
  refine TcpPort.heeds_plugged endpoint connection attached.port _ plugged.sound ?_ plugged.sized
    ?_ ?_ ?_
  · intro usable
    rw [← plugged.usable]
    exact opens usable
  · intro reads
    obtain ⟨awaiting, idle⟩ := Bool.and_eq_true_iff.mp reads
    exact ⟨begins awaiting (by simpa using idle), awaiting⟩
  · intro quiet
    rw [plugged.reading]
    cases before : endpoint.awaiting attached.connection with
    | true => exact (persists before).symm
    | false => simpa [before] using quiet.symm
  · rw [same.underWrite, same.sent, same.completed]
    exact plugged.carries

omit lawful isValid in
/-- What a resumed `read` leaves of the transport. -/
theorem Plugged.read_over {transport : TcpTransport} {outcome : Except SocketError Buffer}
    (resumed : attached.port.transport.resumeRead = some (transport, outcome)) :
    transport.reading = none ∧ { attached.port with transport := transport }.Carries
        (endpoint.underWrite attached.connection) (endpoint.sent attached.connection)
        (endpoint.completed attached.connection) ∧
      (∀ first rest, outcome = .ok (first :: rest) →
        transport.open_ = attached.port.transport.open_) := by
  have dropped : { attached.port with
      transport := { attached.port.transport with reading := none } }.Carries
        (endpoint.underWrite attached.connection) (endpoint.sent attached.connection)
        (endpoint.completed attached.connection) := plugged.carries.kept rfl rfl id
  obtain ⟨call, -, ⟨bytes, -, rfl, -⟩ | ⟨error, -, rfl, rfl⟩⟩ :=
    TcpTransport.resumeRead_cases resumed
  · exact ⟨rfl, dropped, fun _ _ _ => rfl⟩
  · refine ⟨TcpTransport.close_reading_none rfl, dropped.close, ?_⟩
    intro first rest
    split <;> simp

theorem Plugged.resumeRead {transport : TcpTransport} {outcome : Except SocketError Buffer}
    (resumed : attached.port.transport.resumeRead = some (transport, outcome))
    (returned : attached.readReturns endpoint transport outcome = some after) :
    after.Plugged endpoint := by
  have sound := plugged.sound.resumeRead resumed
  obtain ⟨gone, carries, opened⟩ := plugged.read_over resumed
  unfold readReturns at returned
  split at returned
  · have stepped := act_stepped returned
    obtain ⟨same, awaiting, usable⟩ := lawful.ends _ _ _ isValid (Or.inl stepped)
    refine act_readOver returned sound gone (carries.kept rfl rfl id) same awaiting ?_
    rw [usable, ← sound.isOpen]
    simp
  · rename_i bytes other
    obtain ⟨first, rest, rfl⟩ := List.exists_cons_of_ne_nil other
    have stepped := act_stepped returned
    obtain ⟨same, awaiting, usable⟩ := lawful.receives _ _ _ isValid stepped
    refine act_readOver returned sound gone (carries.kept rfl rfl id) same awaiting ?_
    rw [usable, plugged.usable]
    exact fun usable => (opened first rest rfl).trans usable
  · have stepped := act_stepped returned
    obtain ⟨same, awaiting, usable⟩ := lawful.ends _ _ _ isValid (Or.inr stepped)
    refine act_readOver returned sound gone carries same awaiting ?_
    rw [usable, ← sound.isOpen]
    simp

omit lawful isValid in
/-- Nothing is under write exactly while no `write` is suspended. -/
theorem Plugged.idle_iff : endpoint.underWrite attached.connection = none ↔
    attached.port.transport.writing = none := by
  refine ⟨?_, plugged.carries.idle⟩
  intro idle
  cases found : attached.port.transport.writing with
  | none => rfl
  | some call =>
    obtain ⟨frame, writing, -⟩ := plugged.carries.busy call found
    simp [idle] at writing

omit lawful isValid in
/-- A step that neither closes the transport nor begins a read calls nothing. -/
theorem Plugged.calls_nothing {usable : Bool}
    (same : usable = endpoint.transportOpen attached.connection) :
    attached.port.heeds usable false = attached.port := by
  have opened := same.trans plugged.usable
  cases usable with
  | true => simp [TcpPort.heeds]
  | false => simp [TcpPort.heeds, TcpTransport.close, ← opened]

/-- Resuming the writer calls nothing before the frame is given. -/
theorem Plugged.resumeWriter_port
    (acted : attached.act endpoint endpoint.resumeWriter = some after) :
    after.port = attached.port := by
  obtain ⟨awaiting, usable, -⟩ := lawful.resumes _ _ isValid (act_stepped acted)
  obtain ⟨connection, -, rfl⟩ := Option.map_eq_some_iff.mp acted
  dsimp only at awaiting usable ⊢
  rw [awaiting, Bool.and_not_self]
  exact plugged.calls_nothing usable

/-- The resumed writer gives its frame to an open transport, or loses it at once. -/
theorem Plugged.resumeWriter
    (resumed : (attached.act endpoint endpoint.resumeWriter).bind (giveFrame endpoint what) =
      some after) : after.Plugged endpoint := by
  obtain ⟨middle, acted, gave⟩ := Option.bind_eq_some_iff.mp resumed
  have stepped := act_stepped acted
  have stillValid := lawful.kept _ _ _ isValid stepped
  obtain ⟨awaiting, usable, completed, idle, stage⟩ := lawful.resumes _ _ isValid stepped
  have gone := plugged.idle_iff.mp idle
  have port := plugged.resumeWriter_port lawful isValid acted
  unfold giveFrame at gave
  rcases stage with ⟨finished, sent⟩ | ⟨frame, writing, sent⟩
  · rw [finished] at gave
    obtain rfl := Option.some.inj gave
    refine ⟨?_, ?_, ?_, ?_, ?_⟩
    · rw [port]
      exact plugged.sound
    · rw [port, usable]
      exact plugged.usable
    · rw [port, awaiting]
      exact plugged.reading
    · rw [port]
      exact plugged.sized
    · rw [port, finished, sent, completed, ← idle]
      exact plugged.carries
  · rw [writing] at gave
    dsimp only at gave
    rw [port] at gave
    by_cases opened : attached.port.transport.open_ = true
    · have isOpen := plugged.sound.isOpen.trans opened
      rw [plugged.usable, opened, if_pos rfl] at sent
      simp only [TcpTransport.write, isOpen, if_true] at gave
      obtain rfl := Option.some.inj gave
      refine ⟨?_, ?_, ?_, ?_, ?_⟩
      · exact plugged.sound.writeSome (encodeFrame frame) 0 (Nat.zero_le _)
      · exact usable.trans plugged.usable
      · exact plugged.reading.trans awaiting.symm
      · exact plugged.sized
      · simp only [withTransport, port, writing, sent, completed]
        exact plugged.carries.begins gone opened frame
    · have shut : attached.port.transport.open_ = false := by simpa using opened
      have isOpen := plugged.sound.isOpen.trans shut
      rw [plugged.usable, shut] at sent
      simp only [TcpTransport.write, isOpen, Bool.false_eq_true, if_false] at gave sent
      have same : middle.withTransport attached.port.transport = middle := by
        rw [← port]
        rfl
      rw [same] at gave
      refine act_writeLost lawful stillValid gave ?_ ?_ ?_ ?_ ?_ ?_ ?_ ?_
      · rw [port]
        exact plugged.sound
      · rw [port]
        exact plugged.sized
      · rw [port, awaiting]
        exact plugged.reading
      · rw [port]
        exact gone
      · rw [port]
        exact shut
      · rw [port, completed]
        exact plugged.carries.done
      · rw [port, sent]
        exact plugged.carries.given
      · rw [sent, completed]
        exact plugged.carries.last

/-- A resumed `write` goes on with what is left of the frame, or is over. -/
theorem Plugged.resumeWrite {transport : TcpTransport} {outcome : Option (Except SocketError Unit)}
    (resumed : attached.port.transport.resumeWrite = some (transport, outcome))
    (returned : attached.writeReturns endpoint what transport outcome = some after) :
    after.Plugged endpoint := by
  have sound := plugged.sound.resumeWrite resumed
  obtain ⟨call, found, whole | rest | failed⟩ := TcpTransport.resumeWrite_cases resumed
  · obtain ⟨count, -, full, rfl, rfl⟩ := whole
    have stepped := act_stepped returned
    obtain ⟨frame, writing, idle, completed, sent, awaiting, usable⟩ :=
      lawful.completes _ _ isValid stepped
    refine act_plugged returned sound plugged.sized ?_ ?_ ?_ ?_
    · rw [usable]
      exact fun opened => plugged.usable.symm.trans opened
    · rw [awaiting]
      exact id
    · rw [awaiting]
      exact plugged.reading
    · rw [idle, completed, sent]
      exact plugged.carries.completes found full writing
  · obtain ⟨count, -, -, rfl, rfl⟩ := rest
    obtain rfl := Option.some.inj returned
    exact ⟨sound, plugged.usable, plugged.reading, plugged.sized, plugged.carries.goesOn found⟩
  · obtain ⟨error, -, closed, rfl⟩ := failed
    have acted : (attached.withTransport transport).act endpoint
        (endpoint.writeFailed (what error)) = some after := returned
    have reading : transport.reading.isSome = attached.port.transport.reading.isSome := by
      rw [closed, TcpTransport.close_reading_isSome]
    have stillValid : valid (attached.withTransport transport).connection := isValid
    refine act_writeLost lawful stillValid acted sound ?_ (reading.trans plugged.reading) ?_ ?_
      plugged.carries.done plugged.carries.given plugged.carries.last
    · dsimp only [withTransport]
      rw [closed]
      exact TcpTransport.close_reading_size plugged.sized
    · dsimp only [withTransport]
      rw [closed]
      exact TcpTransport.close_writing_none rfl
    · dsimp only [withTransport]
      rw [closed]
      exact TcpTransport.close_open

omit lawful isValid in
/-- The system completes the read that is in progress. -/
theorem Plugged.completesRead {port : TcpPort} {size : Nat} {outcome : Except SocketError Buffer}
    (found : attached.port.transport.reading = some ⟨size, .pending⟩)
    (within : ∀ bytes, outcome = .ok bytes → 0 < bytes.length ∧ bytes.length ≤ size)
    (transport : port.transport = { attached.port.transport with
      reading := some ⟨size, .completed outcome⟩ })
    (outgoing : port.outgoing = attached.port.outgoing) :
    Plugged endpoint { attached with port := port } := by
  refine ⟨?_, ?_, ?_, ?_, ?_⟩
  · rw [transport]
    exact plugged.sound.completesRead within
  · rw [transport]
    exact plugged.usable
  · rw [transport, ← plugged.reading, found]
    rfl
  · rw [transport]
    intro call present
    obtain rfl := Option.some.inj present
    exact plugged.sized ⟨size, .pending⟩ found
  · refine plugged.carries.kept outgoing ?_ ?_
    · rw [transport]
    · rw [transport]
      exact id

/-- Every step of an attached connection keeps it in agreement with its transport. -/
theorem Plugged.step {peer : TcpPort} {event : PortEvent ε}
    (stepped : attached.step endpoint what peer event = some after) : after.Plugged endpoint := by
  cases event with
  | own event =>
    obtain ⟨own, acted⟩ := Option.ite_none_right_eq_some.mp stepped
    exact plugged.own lawful isValid own acted
  | resumeWriter => exact plugged.resumeWriter lawful isValid stepped
  | resumeRead =>
    obtain ⟨⟨transport, outcome⟩, resumed, returned⟩ := Option.bind_eq_some_iff.mp stepped
    exact plugged.resumeRead lawful isValid resumed returned
  | resumeWrite =>
    obtain ⟨⟨transport, outcome⟩, resumed, returned⟩ := Option.bind_eq_some_iff.mp stepped
    exact plugged.resumeWrite lawful isValid resumed returned
  | transmits count =>
    obtain ⟨⟨transport, bytes⟩, transmitted, rfl⟩ := Option.map_eq_some_iff.mp stepped
    have carries := plugged.carries.transmits transmitted
    obtain ⟨buffer, transferred, -, -, bound, -, rfl⟩ := TcpTransport.transmits_cases transmitted
    exact ⟨plugged.sound.completesWrite bound, plugged.usable, plugged.reading, plugged.sized,
      carries⟩
  | arrives count =>
    obtain ⟨full, handed⟩ := Option.ite_none_right_eq_some.mp stepped
    obtain ⟨transport, arrived, rfl⟩ := Option.map_eq_some_iff.mp handed
    obtain ⟨size, found, positive, bound, same⟩ := TcpTransport.arrives_cases arrived
    refine plugged.completesRead found ?_ same rfl
    intro bytes handed
    obtain rfl := Except.ok.inj handed
    exact ⟨positive, bound⟩
  | ends =>
    obtain ⟨-, ended⟩ := Option.ite_none_right_eq_some.mp stepped
    obtain ⟨transport, broken, rfl⟩ := Option.map_eq_some_iff.mp ended
    obtain ⟨size, found, same⟩ := TcpTransport.readBreaks_cases broken
    exact plugged.completesRead found (by simp) same rfl
  | readBreaks error =>
    obtain ⟨-, failed⟩ := Option.ite_none_left_eq_some.mp stepped
    obtain ⟨transport, broken, rfl⟩ := Option.map_eq_some_iff.mp failed
    obtain ⟨size, found, same⟩ := TcpTransport.readBreaks_cases broken
    exact plugged.completesRead found (by simp) same rfl
  | writeBreaks error =>
    obtain ⟨transport, broken, rfl⟩ := Option.map_eq_some_iff.mp stepped
    have carries := plugged.carries.breaks broken
    obtain ⟨buffer, transferred, found, rfl⟩ := TcpTransport.writeBreaks_cases broken
    have within := plugged.sound.writeWithin _ found
    exact ⟨plugged.sound.completesWrite within, plugged.usable, plugged.reading, plugged.sized,
      carries⟩

omit lawful isValid in
theorem Plugged.reading_none (idle : endpoint.awaiting attached.connection = false) :
    attached.port.transport.reading = none := by
  have reading := plugged.reading
  rw [idle] at reading
  simpa using reading

end Steps

/-- A step of the connection leaves the stream and the counters of its port alone, and a
closed transport stays closed. -/
theorem act_port {event : ε} (acted : attached.act endpoint event = some after) :
    after.port.outgoing = attached.port.outgoing ∧ after.port.consumed = attached.port.consumed ∧
      after.port.ended = attached.port.ended ∧
      (attached.port.transport.open_ = false → after.port.transport.open_ = false) := by
  obtain ⟨connection, -, rfl⟩ := Option.map_eq_some_iff.mp acted
  refine ⟨rfl, rfl, rfl, ?_⟩
  intro shut
  simp only [TcpPort.heeds]
  split
  · rw [TcpTransport.read_open]
    split
    · exact shut
    · exact TcpTransport.close_open
  · split
    · exact shut
    · exact TcpTransport.close_open

theorem act_reads {event : ε} {peer : TcpPort} (acted : attached.act endpoint event = some after)
    (reads : attached.port.Reads peer)
    (idle : endpoint.awaiting attached.connection = false →
      attached.port.transport.reading = none) : after.port.Reads peer := by
  obtain ⟨connection, -, rfl⟩ := Option.map_eq_some_iff.mp acted
  refine reads.heeds _ _ ?_
  intro begins
  exact idle (by simpa using (Bool.and_eq_true_iff.mp begins).2)

/-- A step of the connection and its calls do not touch the stream, and what is closed
stays closed. -/
theorem act_frozen {port : TcpPort} {event : ε}
    (acted : act endpoint { attached with port := port } event = some after)
    (outgoing : port.outgoing = attached.port.outgoing)
    (shut : attached.port.transport.open_ = false → port.transport.open_ = false) :
    after.port.outgoing = attached.port.outgoing ∧
      (attached.port.transport.open_ = false → after.port.transport.open_ = false) := by
  obtain ⟨same, -, -, closed⟩ := act_port acted
  exact ⟨same.trans outgoing, fun before => closed (shut before)⟩

/-- Only the system adds to the stream, and only while the socket is open. -/
theorem step_grows {peer : TcpPort} {event : PortEvent ε} (sound : attached.port.transport.Sound)
    (stepped : attached.step endpoint what peer event = some after) :
    attached.port.outgoing <+: after.port.outgoing ∧
      (attached.port.transport.open_ = false →
        after.port.transport.open_ = false ∧ after.port.outgoing = attached.port.outgoing) := by
  have frozen : after.port.outgoing = attached.port.outgoing ∧
      (attached.port.transport.open_ = false → after.port.transport.open_ = false) →
      attached.port.outgoing <+: after.port.outgoing ∧
        (attached.port.transport.open_ = false →
          after.port.transport.open_ = false ∧ after.port.outgoing = attached.port.outgoing) := by
    rintro ⟨same, closed⟩
    exact ⟨same ▸ List.prefix_rfl, fun shut => ⟨closed shut, same⟩⟩
  cases event with
  | own event =>
    obtain ⟨own, acted⟩ := Option.ite_none_right_eq_some.mp stepped
    exact frozen (act_frozen acted rfl id)
  | resumeWriter =>
    obtain ⟨middle, acted, gave⟩ := Option.bind_eq_some_iff.mp stepped
    obtain ⟨same, closed⟩ := act_frozen acted rfl id
    refine frozen ?_
    unfold giveFrame at gave
    split at gave
    · obtain rfl := Option.some.inj gave
      exact ⟨same, closed⟩
    · rename_i frame writing
      have opened := middle.port.transport.write_open (encodeFrame frame)
      split at gave
      · rename_i transport called
        rw [called] at opened
        obtain rfl := Option.some.inj gave
        exact ⟨same, fun shut => opened.trans (closed shut)⟩
      · rename_i transport error called
        rw [called] at opened
        obtain ⟨again, still⟩ := act_frozen gave rfl fun shut => opened.trans shut
        exact ⟨again.trans same, fun shut => still (closed shut)⟩
  | resumeRead =>
    obtain ⟨⟨transport, outcome⟩, resumed, returned⟩ := Option.bind_eq_some_iff.mp stepped
    refine frozen ?_
    dsimp only [readReturns] at returned
    split at returned
    · exact act_frozen returned rfl (TcpTransport.resumeRead_open resumed)
    · exact act_frozen returned rfl (TcpTransport.resumeRead_open resumed)
    · exact act_frozen returned rfl (TcpTransport.resumeRead_open resumed)
  | resumeWrite =>
    obtain ⟨⟨transport, outcome⟩, resumed, returned⟩ := Option.bind_eq_some_iff.mp stepped
    refine frozen ?_
    dsimp only [writeReturns] at returned
    split at returned
    · obtain rfl := Option.some.inj returned
      exact ⟨rfl, TcpTransport.resumeWrite_open resumed⟩
    · exact act_frozen returned rfl (TcpTransport.resumeWrite_open resumed)
    · exact act_frozen returned rfl (TcpTransport.resumeWrite_open resumed)
  | transmits count =>
    obtain ⟨⟨transport, bytes⟩, transmitted, rfl⟩ := Option.map_eq_some_iff.mp stepped
    obtain ⟨buffer, transferred, found, -, -, -, rfl⟩ := TcpTransport.transmits_cases transmitted
    refine ⟨List.prefix_append _ _, ?_⟩
    intro shut
    exact absurd rfl (sound.writeOver shut _ found)
  | arrives count =>
    obtain ⟨full, handed⟩ := Option.ite_none_right_eq_some.mp stepped
    obtain ⟨transport, arrived, rfl⟩ := Option.map_eq_some_iff.mp handed
    obtain ⟨size, found, -, -, rfl⟩ := TcpTransport.arrives_cases arrived
    exact frozen ⟨rfl, id⟩
  | ends =>
    obtain ⟨-, ended⟩ := Option.ite_none_right_eq_some.mp stepped
    obtain ⟨transport, broken, rfl⟩ := Option.map_eq_some_iff.mp ended
    obtain ⟨size, found, rfl⟩ := TcpTransport.readBreaks_cases broken
    exact frozen ⟨rfl, id⟩
  | readBreaks error =>
    obtain ⟨-, failed⟩ := Option.ite_none_left_eq_some.mp stepped
    obtain ⟨transport, broken, rfl⟩ := Option.map_eq_some_iff.mp failed
    obtain ⟨size, found, rfl⟩ := TcpTransport.readBreaks_cases broken
    exact frozen ⟨rfl, id⟩
  | writeBreaks error =>
    obtain ⟨transport, broken, rfl⟩ := Option.map_eq_some_iff.mp stepped
    obtain ⟨buffer, transferred, -, rfl⟩ := TcpTransport.writeBreaks_cases broken
    exact frozen ⟨rfl, id⟩

/-- What a step of an attached connection is to the connection: nothing, one of its steps
or two of them, a read of the next bytes of the other side's stream, or the end of that
stream. -/
inductive Moves (endpoint : Endpoint σ ε) (peer : TcpPort) (before after : Attached σ) : Prop where
  | still (connection : after.connection = before.connection)
      (consumed : after.port.consumed = before.port.consumed)
      (ended : after.port.ended = before.port.ended)
  | once (event : ε) (other : ∀ bytes, event ≠ endpoint.received bytes)
      (stepped : endpoint.step before.connection event = some after.connection)
      (consumed : after.port.consumed = before.port.consumed)
      (ended : after.port.ended = before.port.ended)
  | twice (first second : ε) (middle : σ)
      (other : ∀ bytes, first ≠ endpoint.received bytes ∧ second ≠ endpoint.received bytes)
      (stepped : endpoint.step before.connection first = some middle)
      (again : endpoint.step middle second = some after.connection)
      (consumed : after.port.consumed = before.port.consumed)
      (ended : after.port.ended = before.port.ended)
  | reads (bytes : Buffer)
      (front : bytes = (peer.outgoing.drop before.port.consumed).take bytes.length)
      (within : before.port.consumed + bytes.length ≤ peer.outgoing.length)
      (stepped : endpoint.step before.connection (endpoint.received bytes) =
        some after.connection)
      (consumed : after.port.consumed = before.port.consumed + bytes.length)
      (ended : after.port.ended = before.port.ended)
  | ends (closes : Bool) (awaiting : endpoint.awaiting before.connection = true)
      (stepped : endpoint.step before.connection (endpoint.endOfFile closes) =
        some after.connection)
      (whole : before.port.consumed = peer.outgoing.length)
      (consumed : after.port.consumed = before.port.consumed)

/-- What every step of the connection keeps, a step of the attached connection keeps. -/
theorem Moves.kept {peer : TcpPort} (moves : Moves endpoint peer attached after)
    (lawful : endpoint.Lawful valid) (isValid : valid attached.connection) :
    valid after.connection := by
  cases moves with
  | still connection =>
    rw [connection]
    exact isValid
  | once event other stepped => exact lawful.kept _ _ _ isValid stepped
  | twice first second middle other stepped again =>
    exact lawful.kept _ _ _ (lawful.kept _ _ _ isValid stepped) again
  | reads bytes front within stepped => exact lawful.kept _ _ _ isValid stepped
  | ends closes awaiting stepped => exact lawful.kept _ _ _ isValid stepped

/-- A step of an attached connection is a run of any system that takes the steps of the
connection and reads the other side's stream. -/
theorem Moves.run {ρ η : Type} {peer : TcpPort} (moves : Moves endpoint peer attached after)
    (lawful : endpoint.Lawful valid) (perform : ρ → η → Option ρ) (view : σ → Nat → ρ)
    (steps : ∀ before event next count, (∀ bytes, event ≠ endpoint.received bytes) →
      endpoint.step before event = some next →
      ∃ action, perform (view before count) action = some (view next count))
    (reads : ∀ before bytes next count,
      bytes = (peer.outgoing.drop count).take bytes.length →
      count + bytes.length ≤ peer.outgoing.length →
      endpoint.step before (endpoint.received bytes) = some next →
      ∃ action, perform (view before count) action = some (view next (count + bytes.length))) :
    Reachability.Reaches perform Reachability.unguarded
      (view attached.connection attached.port.consumed)
      (view after.connection after.port.consumed) := by
  cases moves with
  | still connection consumed =>
    rw [connection, consumed]
    exact .start
  | once event other stepped consumed =>
    obtain ⟨action, performed⟩ := steps _ _ _ attached.port.consumed other stepped
    rw [consumed]
    exact .next .start trivial performed
  | twice first second middle other stepped again consumed =>
    obtain ⟨action, performed⟩ :=
      steps _ _ _ attached.port.consumed (fun bytes => (other bytes).1) stepped
    obtain ⟨next, followed⟩ :=
      steps _ _ _ attached.port.consumed (fun bytes => (other bytes).2) again
    rw [consumed]
    exact .next (.next .start trivial performed) trivial followed
  | reads bytes front within stepped consumed =>
    obtain ⟨action, performed⟩ := reads _ _ _ _ front within stepped
    rw [consumed]
    exact .next .start trivial performed
  | ends closes awaiting stepped whole consumed =>
    have other : ∀ bytes, endpoint.endOfFile closes ≠ endpoint.received bytes := fun bytes =>
      lawful.apart _ bytes (Or.inr (Or.inr (Or.inr (Or.inr ⟨closes, Or.inl rfl⟩))))
    obtain ⟨action, performed⟩ := steps _ _ _ attached.port.consumed other stepped
    rw [consumed]
    exact .next .start trivial performed

section Moving

variable (lawful : endpoint.Lawful valid) (isValid : valid attached.connection)
  (plugged : attached.Plugged endpoint) {peer : TcpPort} (reads : attached.port.Reads peer)

section Reading

include plugged reads

/-- A read that returns bytes returns the next ones of the other side's stream. -/
theorem Plugged.read_bytes {call : ReadCall} {bytes : Buffer}
    (found : attached.port.transport.reading = some call)
    (stage : call.operation = .completed (.ok bytes)) :
    bytes ≠ [] ∧ bytes = (peer.outgoing.drop attached.port.consumed).take bytes.length ∧
      attached.port.consumed + bytes.length ≤ peer.outgoing.length ∧
      TcpPort.Reads { attached.port with
        transport := { attached.port.transport with reading := none }
        consumed := attached.port.consumed + bytes.length } peer := by
  have holds : attached.port.carried = bytes := by
    simp [TcpPort.carried, found, ReadCall.carried, stage]
  have nonempty : bytes ≠ [] := by
    intro vacant
    obtain ⟨-, carries⟩ := plugged.sound.readWithin call found
    have sized : call.size ≠ 0 := by
      rw [plugged.sized call found]
      decide
    exact carries (by simp [ReadCall.carried, stage, vacant]) sized bytes stage
  have count := reads.count
  have order := reads.order
  rw [holds] at count order
  have within : attached.port.consumed + bytes.length ≤ peer.outgoing.length :=
    count ▸ reads.within
  refine ⟨nonempty, order, within, reads.within, count, rfl, ?_, ?_⟩
  · rintro ⟨size, posted⟩
    simp at posted
  · intro gone
    obtain ⟨-, whole⟩ := reads.ended gone
    have positive := List.length_pos_iff.mpr nonempty
    omega

omit plugged in
/-- A read that failed carried nothing. -/
theorem read_nothing {call : ReadCall} {error : SocketError}
    (found : attached.port.transport.reading = some call)
    (stage : call.operation = .completed (.error error)) :
    attached.port.consumed = attached.port.arrived ∧
      TcpPort.Reads { attached.port with
        transport := { attached.port.transport with reading := none }.close } peer := by
  have nothing : attached.port.carried = [] := by
    simp [TcpPort.carried, found, ReadCall.carried, stage]
  have count := reads.count
  rw [nothing] at count
  refine ⟨count, ?_⟩
  have dropped : TcpPort.Reads { attached.port with
      transport := { attached.port.transport with reading := none } } peer := by
    refine reads.kept (by rw [nothing]; rfl) rfl rfl rfl ?_
    rintro ⟨size, posted⟩
    simp at posted
  exact dropped.close

end Reading

include lawful plugged reads

/-- A resumed `read` is a read of the next bytes, the end of the stream, or a failure. -/
theorem Plugged.resumeRead_moves {transport : TcpTransport} {outcome : Except SocketError Buffer}
    (resumed : attached.port.transport.resumeRead = some (transport, outcome))
    (returned : attached.readReturns endpoint transport outcome = some after) :
    Moves endpoint peer attached after ∧ after.port.Reads peer := by
  have gone := (plugged.read_over resumed).1
  have awaiting : endpoint.awaiting attached.connection = true := by
    obtain ⟨call, found, -⟩ := TcpTransport.resumeRead_cases resumed
    rw [← plugged.reading, found]
    rfl
  obtain ⟨call, found, ⟨bytes, stage, rfl, rfl⟩ | ⟨error, stage, rfl, rfl⟩⟩ :=
    TcpTransport.resumeRead_cases resumed
  · obtain ⟨nonempty, front, within, follows⟩ := plugged.read_bytes reads found stage
    obtain ⟨first, rest, rfl⟩ := List.exists_cons_of_ne_nil nonempty
    obtain ⟨-, consumed, ended, -⟩ := act_port returned
    have stepped := act_stepped returned
    exact ⟨.reads _ front within stepped consumed ended,
      act_reads returned follows fun _ => rfl⟩
  · obtain ⟨whole, follows⟩ := read_nothing reads found stage
    by_cases last : error = .eof
    · subst last
      obtain ⟨closed, arrived⟩ := reads.ending ⟨call.size, by rw [found, ← stage]⟩
      rw [if_pos rfl] at returned
      obtain ⟨-, consumed, -, -⟩ := act_port returned
      have stepped := act_stepped returned
      refine ⟨.ends _ awaiting stepped (whole.trans arrived) consumed,
        act_reads returned ?_ fun _ => gone⟩
      exact ⟨follows.within, follows.count, follows.order, follows.ending,
        fun _ => ⟨closed, whole.trans arrived⟩⟩
    · rw [if_neg last] at returned
      obtain ⟨-, consumed, ended, -⟩ := act_port returned
      have stepped := act_stepped returned
      refine ⟨.once _ ?_ stepped consumed ended,
        act_reads returned follows fun _ => gone⟩
      intro bytes
      exact lawful.apart _ bytes (Or.inr (Or.inr (Or.inr (Or.inr ⟨_, Or.inr rfl⟩))))

include isValid

/-- The resumed writer takes one step, and one more if its frame is refused at once. -/
theorem Plugged.resumeWriter_moves
    (resumed : (attached.act endpoint endpoint.resumeWriter).bind (giveFrame endpoint what) =
      some after) : Moves endpoint peer attached after ∧ after.port.Reads peer := by
  obtain ⟨middle, acted, gave⟩ := Option.bind_eq_some_iff.mp resumed
  have stepped := act_stepped acted
  have port := plugged.resumeWriter_port lawful isValid acted
  have follows : middle.port.Reads peer := by
    rw [port]
    exact reads
  have idle : endpoint.awaiting middle.connection = false → middle.port.transport.reading = none := by
    rw [(lawful.resumes _ _ isValid stepped).1, port]
    exact plugged.reading_none
  have count : middle.port.consumed = attached.port.consumed := by rw [port]
  have gone : middle.port.ended = attached.port.ended := by rw [port]
  have writer : ∀ bytes, endpoint.resumeWriter ≠ endpoint.received bytes :=
    fun bytes => lawful.apart _ bytes (Or.inr (Or.inl rfl))
  unfold giveFrame at gave
  split at gave
  · obtain rfl := Option.some.inj gave
    exact ⟨.once _ writer stepped count gone, follows⟩
  · rename_i frame writing
    cases called : middle.port.transport.write (encodeFrame frame) with
    | mk transport error =>
      have reading : transport.reading = middle.port.transport.reading := by
        have same := middle.port.transport.write_reading (encodeFrame frame)
        rwa [called] at same
      have given : TcpPort.Reads { middle.port with transport := transport } peer := by
        refine follows.kept ?_ rfl rfl rfl ?_
        · simp only [TcpPort.carried, reading]
        · rintro ⟨size, posted⟩
          exact ⟨size, reading ▸ posted⟩
      rw [called] at gave
      cases error with
      | none =>
        obtain rfl := Option.some.inj gave
        exact ⟨.once _ writer stepped count gone, given⟩
      | some error =>
        have again := act_stepped gave
        obtain ⟨-, consumed, ended, -⟩ := act_port gave
        refine ⟨.twice _ _ _ ?_ stepped again (consumed.trans count) (ended.trans gone),
          act_reads gave given ?_⟩
        · intro bytes
          exact ⟨writer bytes,
            lawful.apart _ bytes (Or.inr (Or.inr (Or.inr (Or.inl ⟨_, rfl⟩))))⟩
        · exact fun quiet => reading.trans (idle quiet)

omit isValid in
/-- A resumed `write` is nothing to the connection while there is more to write. -/
theorem Plugged.resumeWrite_moves {transport : TcpTransport}
    {outcome : Option (Except SocketError Unit)}
    (resumed : attached.port.transport.resumeWrite = some (transport, outcome))
    (returned : attached.writeReturns endpoint what transport outcome = some after) :
    Moves endpoint peer attached after ∧ after.port.Reads peer := by
  have follows : TcpPort.Reads { attached.port with transport := transport } peer ∧
      (endpoint.awaiting attached.connection = false → transport.reading = none) := by
    obtain ⟨call, -, whole | rest | failed⟩ := TcpTransport.resumeWrite_cases resumed
    · obtain ⟨count, -, -, rfl, -⟩ := whole
      exact ⟨reads.kept rfl rfl rfl rfl id, plugged.reading_none⟩
    · obtain ⟨count, -, -, rfl, -⟩ := rest
      exact ⟨reads.kept rfl rfl rfl rfl id, plugged.reading_none⟩
    · obtain ⟨error, -, rfl, -⟩ := failed
      have dropped : TcpPort.Reads { attached.port with
          transport := { attached.port.transport with writing := none } } peer :=
        reads.kept rfl rfl rfl rfl id
      exact ⟨dropped.close, fun idle =>
        TcpTransport.close_reading_none (plugged.reading_none idle)⟩
  obtain ⟨follows, idle⟩ := follows
  unfold writeReturns at returned
  split at returned
  · obtain rfl := Option.some.inj returned
    exact ⟨.still rfl rfl rfl, follows⟩
  · have stepped := act_stepped returned
    obtain ⟨-, consumed, ended, -⟩ := act_port returned
    refine ⟨.once _ ?_ stepped consumed ended, act_reads returned follows idle⟩
    exact fun bytes => lawful.apart _ bytes (Or.inr (Or.inr (Or.inl rfl)))
  · have stepped := act_stepped returned
    obtain ⟨-, consumed, ended, -⟩ := act_port returned
    refine ⟨.once _ ?_ stepped consumed ended, act_reads returned follows idle⟩
    exact fun bytes => lawful.apart _ bytes (Or.inr (Or.inr (Or.inr (Or.inl ⟨_, rfl⟩))))

/-- What a step of an attached connection is to the connection, and to what it reads. -/
theorem Plugged.step_moves {event : PortEvent ε}
    (stepped : attached.step endpoint what peer event = some after)
    (agrees : peer.transport.socketOpen = peer.transport.open_) :
    Moves endpoint peer attached after ∧ after.port.Reads peer := by
  cases event with
  | own event =>
    obtain ⟨own, acted⟩ := Option.ite_none_right_eq_some.mp stepped
    obtain ⟨-, consumed, ended, -⟩ := act_port acted
    refine ⟨.once _ ?_ (act_stepped acted) consumed ended,
      act_reads acted reads plugged.reading_none⟩
    exact fun bytes => lawful.apart _ bytes (Or.inl own)
  | resumeWriter => exact plugged.resumeWriter_moves lawful isValid reads stepped
  | resumeRead =>
    obtain ⟨⟨transport, outcome⟩, resumed, returned⟩ := Option.bind_eq_some_iff.mp stepped
    exact plugged.resumeRead_moves lawful reads resumed returned
  | resumeWrite =>
    obtain ⟨⟨transport, outcome⟩, resumed, returned⟩ := Option.bind_eq_some_iff.mp stepped
    exact plugged.resumeWrite_moves lawful reads resumed returned
  | transmits count =>
    obtain ⟨⟨transport, bytes⟩, transmitted, rfl⟩ := Option.map_eq_some_iff.mp stepped
    obtain ⟨buffer, transferred, -, -, -, -, rfl⟩ := TcpTransport.transmits_cases transmitted
    exact ⟨.still rfl rfl rfl, reads.kept rfl rfl rfl rfl id⟩
  | arrives count =>
    obtain ⟨full, handed⟩ := Option.ite_none_right_eq_some.mp stepped
    obtain ⟨transport, arrived, rfl⟩ := Option.map_eq_some_iff.mp handed
    obtain ⟨size, found, -, -, rfl⟩ := TcpTransport.arrives_cases arrived
    have nothing : attached.port.carried = [] := by
      simp [TcpPort.carried, found, ReadCall.carried]
    have consumed : attached.port.consumed = attached.port.arrived := by
      have count := reads.count
      rwa [nothing] at count
    have bound := full
    rw [List.length_take, List.length_drop] at bound
    have within := reads.within
    refine ⟨.still rfl rfl rfl, ?_, ?_, ?_, ?_, reads.ended⟩
    · dsimp only
      omega
    · simp only [TcpPort.carried, Option.map_some, Option.getD_some, ReadCall.carried]
      rw [full, consumed]
    · simp only [TcpPort.carried, Option.map_some, Option.getD_some, ReadCall.carried]
      rw [full, consumed]
    · rintro ⟨other, posted⟩
      simp at posted
  | ends =>
    obtain ⟨last, ended⟩ := Option.ite_none_right_eq_some.mp stepped
    obtain ⟨transport, broken, rfl⟩ := Option.map_eq_some_iff.mp ended
    obtain ⟨size, found, rfl⟩ := TcpTransport.readBreaks_cases broken
    obtain ⟨closed, arrived⟩ := Bool.and_eq_true_iff.mp last
    refine ⟨.still rfl rfl rfl, reads.within, ?_, ?_, ?_, reads.ended⟩
    · simpa [TcpPort.carried, withTransport, found, ReadCall.carried] using reads.count
    · simp [TcpPort.carried, withTransport, ReadCall.carried]
    · intro _
      exact ⟨by rw [← agrees]; simpa using closed, of_decide_eq_true arrived⟩
  | readBreaks error =>
    obtain ⟨other, failed⟩ := Option.ite_none_left_eq_some.mp stepped
    obtain ⟨transport, broken, rfl⟩ := Option.map_eq_some_iff.mp failed
    obtain ⟨size, found, rfl⟩ := TcpTransport.readBreaks_cases broken
    refine ⟨.still rfl rfl rfl, reads.kept ?_ rfl rfl rfl ?_⟩
    · simp [TcpPort.carried, withTransport, found, ReadCall.carried]
    · rintro ⟨same, posted⟩
      simp only [withTransport, Option.some.injEq, ReadCall.mk.injEq,
        SocketOperation.completed.injEq, Except.error.injEq] at posted
      exact absurd posted.2 other
  | writeBreaks error =>
    obtain ⟨transport, broken, rfl⟩ := Option.map_eq_some_iff.mp stepped
    obtain ⟨buffer, transferred, -, rfl⟩ := TcpTransport.writeBreaks_cases broken
    exact ⟨.still rfl rfl rfl, reads.kept rfl rfl rfl rfl id⟩

end Moving

end Attached

end Endpoints

end Rillnet
