import Rillnet.Frame
import Rillnet.Library.Reachability

/-!
# The TCP transport

A transport owns a connected socket. A call of `read` or `write` begins an operation
on the socket and is suspended; the system completes the operation, with an outcome or
an error, and the coroutine is resumed by a later step. Closing the socket completes
with an error whatever is still in progress and leaves alone what is already complete.
`async_write` is composed of partial writes, each of which takes some of the bytes.

A connection has one read loop and one writer, so at most one call of each kind is
suspended. How often the socket was shut down and closed is kept as history.
-/

namespace Rillnet

/-- The errors of a socket that the code tells apart, and the others. -/
inductive SocketError where
  | eof
  | connectionRefused
  | connectionReset
  | connectionAborted
  | operationAborted
  | notConnected
  | badDescriptor
  | other (value : Nat)
deriving DecidableEq, Repr

/-- An operation on the socket: in progress, or complete with its handler posted. -/
inductive SocketOperation (α : Type) where
  | pending
  | completed (outcome : Except SocketError α)

/-- Closing the socket aborts what is in progress. -/
def SocketOperation.abort {α : Type} : SocketOperation α → SocketOperation α
  | .pending => .completed (.error .operationAborted)
  | operation => operation

/-- A call of `read`, suspended in `async_read_some`. -/
structure ReadCall where
  size : Nat
  operation : SocketOperation Buffer

/-- A call of `write`, suspended in `async_write`: the partial writes that are over
transferred an initial part of the buffer, and one more is under way. -/
structure WriteCall where
  buffer : Buffer
  transferred : Nat
  operation : SocketOperation Nat

/-- The bytes a completed read carries. -/
def ReadCall.carried (call : ReadCall) : Buffer :=
  match call.operation with
  | .completed (.ok bytes) => bytes
  | _ => []

/-- The part of the buffer that the system has taken. -/
def WriteCall.taken (call : WriteCall) : Nat :=
  match call.operation with
  | .completed (.ok count) => call.transferred + count
  | _ => call.transferred

/-- The members of the transport and its suspended calls. -/
structure TcpTransport where
  socketOpen : Bool := true
  open_ : Bool := true
  reading : Option ReadCall := none
  writing : Option WriteCall := none
  releases : Nat := 0

namespace TcpTransport

/-- The transport counts as open while neither it nor its socket was closed. -/
def isOpen (transport : TcpTransport) : Bool := transport.open_ && transport.socketOpen

/-- `shutdown` and `close` of the socket, whose errors are ignored. -/
def releaseSocket (transport : TcpTransport) : TcpTransport :=
  { transport with
    socketOpen := false
    reading := transport.reading.map fun call => { call with operation := call.operation.abort }
    writing := transport.writing.map fun call => { call with operation := call.operation.abort }
    releases := transport.releases + 1 }

/-- Closing releases the socket, once. -/
def close (transport : TcpTransport) : TcpTransport :=
  if transport.open_ then { transport with open_ := false }.releaseSocket else transport

/-- `read` up to its suspension; a closed transport returns no bytes at once. Reading
into an empty buffer completes at once. -/
def read (transport : TcpTransport) (size : Nat) :
    TcpTransport × Option (Except SocketError Buffer) :=
  if transport.isOpen then
    ({ transport with
      reading := some {
        size := size
        operation := if size = 0 then .completed (.ok []) else .pending } }, none)
  else (transport, some (.ok []))

/-- The rest of `read` once its operation is complete. -/
def resumeRead (transport : TcpTransport) : Option (TcpTransport × Except SocketError Buffer) :=
  match transport.reading with
  | some ⟨_, .completed outcome⟩ =>
    let resumed := { transport with reading := none }
    match outcome with
    | .ok bytes => some (resumed, .ok bytes)
    | .error .eof => some (resumed.close, .ok [])
    | .error error => some (resumed.close, .error error)
  | _ => none

/-- Begin a partial write of what is left; a closed socket fails it at once. -/
def writeSome (transport : TcpTransport) (buffer : Buffer) (transferred : Nat) : TcpTransport :=
  { transport with
    writing := some {
      buffer := buffer
      transferred := transferred
      operation :=
        if transport.socketOpen then
          if buffer.length ≤ transferred then .completed (.ok 0) else .pending
        else .completed (.error .badDescriptor) } }

/-- `write` up to its suspension; a closed transport throws at once. -/
def write (transport : TcpTransport) (buffer : Buffer) : TcpTransport × Option SocketError :=
  if transport.isOpen then (transport.writeSome buffer 0, none)
  else (transport, some .notConnected)

/-- A partial write is complete: `async_write` goes on with the next one, or the rest of
`write` runs and the call has an outcome. -/
def resumeWrite (transport : TcpTransport) :
    Option (TcpTransport × Option (Except SocketError Unit)) :=
  match transport.writing with
  | some ⟨buffer, transferred, .completed outcome⟩ =>
    let resumed := { transport with writing := none }
    match outcome with
    | .ok count =>
      if buffer.length ≤ transferred + count then some (resumed, some (.ok ()))
      else some (resumed.writeSome buffer (transferred + count), none)
    | .error error => some (resumed.close, some (.error error))
  | _ => none

/-- The system hands bytes to the read in progress. -/
def arrives (transport : TcpTransport) (bytes : Buffer) : Option TcpTransport :=
  match transport.reading with
  | some ⟨size, .pending⟩ =>
    if 0 < bytes.length ∧ bytes.length ≤ size then
      some { transport with reading := some ⟨size, .completed (.ok bytes)⟩ }
    else none
  | _ => none

/-- The system fails the read in progress; the end of the stream is one of its errors. -/
def readBreaks (transport : TcpTransport) (error : SocketError) : Option TcpTransport :=
  match transport.reading with
  | some ⟨size, .pending⟩ =>
    some { transport with reading := some ⟨size, .completed (.error error)⟩ }
  | _ => none

/-- The system takes some bytes of the write in progress. -/
def transmits (transport : TcpTransport) (count : Nat) : Option (TcpTransport × Buffer) :=
  match transport.writing with
  | some ⟨buffer, transferred, .pending⟩ =>
    if 0 < count ∧ transferred + count ≤ buffer.length then
      some ({ transport with writing := some ⟨buffer, transferred, .completed (.ok count)⟩ },
        (buffer.drop transferred).take count)
    else none
  | _ => none

/-- The system fails the write in progress. -/
def writeBreaks (transport : TcpTransport) (error : SocketError) : Option TcpTransport :=
  match transport.writing with
  | some ⟨buffer, transferred, .pending⟩ =>
    some { transport with writing := some ⟨buffer, transferred, .completed (.error error)⟩ }
  | _ => none

/-- The flag and the socket agree, the socket was released once if it was closed, and
then nothing is in progress. No call has transferred more than it may. -/
structure Sound (transport : TcpTransport) : Prop where
  agrees : transport.socketOpen = transport.open_
  once : transport.releases = if transport.open_ then 0 else 1
  readOver : transport.open_ = false → ∀ call, transport.reading = some call →
    call.operation ≠ .pending
  writeOver : transport.open_ = false → ∀ call, transport.writing = some call →
    call.operation ≠ .pending
  readWithin : ∀ call, transport.reading = some call →
    call.carried.length ≤ call.size ∧ (call.carried = [] → call.size ≠ 0 →
      ∀ bytes, call.operation ≠ .completed (.ok bytes))
  writeWithin : ∀ call, transport.writing = some call → call.taken ≤ call.buffer.length

section Calls

variable {transport : TcpTransport} (sound : transport.Sound)

/-- An operation that was aborted is not pending. -/
theorem abort_over {α : Type} (operation : SocketOperation α) : operation.abort ≠ .pending := by
  cases operation <;> simp [SocketOperation.abort]

/-- Aborting a read takes away nothing it has received. -/
@[simp] theorem abort_carried (call : ReadCall) :
    ReadCall.carried { call with operation := call.operation.abort } = call.carried := by
  obtain ⟨size, operation⟩ := call
  cases operation <;> rfl

/-- Aborting a write takes away nothing that was transferred. -/
@[simp] theorem abort_taken (call : WriteCall) :
    WriteCall.taken { call with operation := call.operation.abort } = call.taken := by
  obtain ⟨buffer, transferred, operation⟩ := call
  cases operation <;> rfl

/-- A closed transport is not open. -/
@[simp] theorem close_open : transport.close.open_ = false := by
  unfold close
  split
  · rfl
  · simp_all

/-- Closing does not touch what the suspended calls carry. -/
@[simp] theorem close_carried : (transport.close.reading.map ReadCall.carried).getD [] =
    (transport.reading.map ReadCall.carried).getD [] := by
  unfold close
  split
  · cases found : transport.reading <;> simp [releaseSocket]
  · rfl

/-- What a write transferred so far stays transferred when the transport is closed. -/
@[simp] theorem close_current :
    (transport.close.writing.map fun call => call.buffer.take call.taken).getD [] =
      (transport.writing.map fun call => call.buffer.take call.taken).getD [] := by
  unfold close
  split
  · cases found : transport.writing <;> simp [releaseSocket]
  · rfl

@[simp] theorem read_writing (size : Nat) :
    (transport.read size).1.writing = transport.writing := by
  unfold read
  split <;> rfl

@[simp] theorem read_open (size : Nat) : (transport.read size).1.open_ = transport.open_ := by
  unfold read
  split <;> rfl

@[simp] theorem write_reading (buffer : Buffer) :
    (transport.write buffer).1.reading = transport.reading := by
  unfold write
  split <;> rfl

@[simp] theorem write_open (buffer : Buffer) :
    (transport.write buffer).1.open_ = transport.open_ := by
  unfold write
  split <;> rfl

@[simp] theorem close_reading_isSome :
    transport.close.reading.isSome = transport.reading.isSome := by
  unfold close
  split
  · simp [releaseSocket]
  · rfl

/-- A read keeps its size when the transport is closed. -/
theorem close_reading_size {size : Nat}
    (sized : ∀ call, transport.reading = some call → call.size = size) :
    ∀ call, transport.close.reading = some call → call.size = size := by
  intro call found
  unfold close at found
  split at found
  · obtain ⟨earlier, present, rfl⟩ := Option.map_eq_some_iff.mp found
    exact sized earlier present
  · exact sized call found

/-- Closing starts no read. -/
theorem close_reading_none (gone : transport.reading = none) : transport.close.reading = none := by
  unfold close
  split
  · simp [releaseSocket, gone]
  · exact gone

/-- Closing starts no write. -/
theorem close_writing_none (gone : transport.writing = none) : transport.close.writing = none := by
  unfold close
  split
  · simp [releaseSocket, gone]
  · exact gone

/-- A partial write that just began has taken nothing more. -/
theorem writeSome_begins (transport : TcpTransport) (buffer : Buffer) (transferred : Nat) :
    ∃ operation, (transport.writeSome buffer transferred).writing =
        some ⟨buffer, transferred, operation⟩ ∧
      WriteCall.taken ⟨buffer, transferred, operation⟩ = transferred := by
  refine ⟨_, rfl, ?_⟩
  split
  · split <;> rfl
  · rfl

include sound

/-- On a sound transport the flag alone decides whether it is open. -/
theorem Sound.isOpen : transport.isOpen = transport.open_ := by
  simp [TcpTransport.isOpen, sound.agrees]

/-- Closing keeps the calls, with what they carried and transferred. -/
theorem Sound.close : transport.close.Sound := by
  unfold TcpTransport.close
  split
  · rename_i usable
    refine ⟨rfl, ?_, ?_, ?_, ?_, ?_⟩
    · simp [releaseSocket, sound.once, usable]
    · rintro - call found
      obtain ⟨earlier, -, rfl⟩ := Option.map_eq_some_iff.mp found
      exact abort_over _
    · rintro - call found
      obtain ⟨earlier, -, rfl⟩ := Option.map_eq_some_iff.mp found
      exact abort_over _
    · intro call found
      obtain ⟨earlier, present, rfl⟩ := Option.map_eq_some_iff.mp found
      obtain ⟨within, carries⟩ := sound.readWithin earlier present
      rw [abort_carried]
      refine ⟨within, fun vacant sized bytes => ?_⟩
      have other := carries vacant sized bytes
      cases stage : earlier.operation with
      | pending => simp [SocketOperation.abort]
      | completed outcome => simpa [SocketOperation.abort, stage] using other
    · intro call found
      obtain ⟨earlier, present, rfl⟩ := Option.map_eq_some_iff.mp found
      rw [abort_taken]
      exact sound.writeWithin earlier present
  · exact sound

/-- A read that has returned leaves the transport sound. -/
theorem Sound.withoutRead : { transport with reading := none }.Sound :=
  ⟨sound.agrees, sound.once, nofun, sound.writeOver, nofun, sound.writeWithin⟩

/-- A write that has returned leaves the transport sound. -/
theorem Sound.withoutWrite : { transport with writing := none }.Sound :=
  ⟨sound.agrees, sound.once, sound.readOver, nofun, sound.readWithin, nofun⟩

/-- A call of `read` on an open transport is suspended. -/
theorem Sound.read (size : Nat) : (transport.read size).1.Sound := by
  unfold TcpTransport.read
  split
  · rename_i usable
    refine ⟨sound.agrees, sound.once, ?_, sound.writeOver, ?_, sound.writeWithin⟩
    · intro gone
      rw [sound.isOpen] at usable
      simp [usable] at gone
    · intro call found
      obtain rfl := Option.some.inj found
      by_cases vacant : size = 0
      · simp [ReadCall.carried, vacant]
      · simp [ReadCall.carried, vacant]
  · exact sound

/-- A partial write begins with what is left of the buffer. -/
theorem Sound.writeSome (buffer : Buffer) (transferred : Nat) (within : transferred ≤ buffer.length) :
    (transport.writeSome buffer transferred).Sound := by
  refine ⟨sound.agrees, sound.once, sound.readOver, ?_, sound.readWithin, ?_⟩
  · intro gone call found
    obtain rfl := Option.some.inj found
    have shut : transport.open_ = false := gone
    simp [sound.agrees, shut]
  · intro call found
    obtain ⟨operation, begun, taken⟩ := transport.writeSome_begins buffer transferred
    obtain rfl := Option.some.inj (begun.symm.trans found)
    rw [taken]
    exact within

/-- A write may begin on a sound transport. -/
theorem Sound.write (buffer : Buffer) : (transport.write buffer).1.Sound := by
  unfold TcpTransport.write
  split
  · exact sound.writeSome buffer 0 (Nat.zero_le _)
  · exact sound

end Calls

section Completions

variable {transport after : TcpTransport}

/-- A resumed `read` returns what its operation carried, or closes the transport. -/
theorem resumeRead_cases {outcome : Except SocketError Buffer}
    (resumed : transport.resumeRead = some (after, outcome)) :
    ∃ call, transport.reading = some call ∧
      ((∃ bytes, call.operation = .completed (.ok bytes) ∧
        after = { transport with reading := none } ∧ outcome = .ok bytes) ∨
      (∃ error, call.operation = .completed (.error error) ∧
        after = { transport with reading := none }.close ∧
        outcome = if error = .eof then .ok [] else .error error)) := by
  unfold resumeRead at resumed
  split at resumed
  · rename_i size found
    refine ⟨_, found, ?_⟩
    split at resumed
    · rename_i bytes
      obtain ⟨rfl, rfl⟩ : _ = after ∧ Except.ok bytes = outcome := by simpa using resumed
      exact Or.inl ⟨bytes, rfl, rfl, rfl⟩
    · obtain ⟨rfl, rfl⟩ : _ = after ∧ Except.ok [] = outcome := by simpa using resumed
      exact Or.inr ⟨.eof, rfl, rfl, by simp⟩
    · rename_i error other
      obtain ⟨rfl, rfl⟩ : _ = after ∧ Except.error error = outcome := by simpa using resumed
      have different : error ≠ .eof := fun same => other same
      exact Or.inr ⟨error, rfl, rfl, by simp [different]⟩
  · simp at resumed

/-- A resumed `async_write` is over once the whole buffer is transferred, goes on with
what is left, or closes the transport. -/
theorem resumeWrite_cases {outcome : Option (Except SocketError Unit)}
    (resumed : transport.resumeWrite = some (after, outcome)) :
    ∃ call, transport.writing = some call ∧
      ((∃ count, call.operation = .completed (.ok count) ∧ call.buffer.length ≤ call.taken ∧
        after = { transport with writing := none } ∧ outcome = some (.ok ())) ∨
      (∃ count, call.operation = .completed (.ok count) ∧ call.taken < call.buffer.length ∧
        after = { transport with writing := none }.writeSome call.buffer call.taken ∧
        outcome = none) ∨
      (∃ error, call.operation = .completed (.error error) ∧
        after = { transport with writing := none }.close ∧ outcome = some (.error error))) := by
  unfold resumeWrite at resumed
  split at resumed
  · rename_i buffer transferred posted found
    refine ⟨_, found, ?_⟩
    split at resumed
    · rename_i count
      split at resumed
      · rename_i whole
        obtain ⟨rfl, rfl⟩ : _ = after ∧ some (Except.ok ()) = outcome := by simpa using resumed
        exact Or.inl ⟨count, rfl, whole, rfl, rfl⟩
      · rename_i left
        obtain ⟨rfl, rfl⟩ : _ = after ∧ none = outcome := by simpa using resumed
        exact Or.inr (Or.inl ⟨count, rfl, Nat.lt_of_not_le left, rfl, rfl⟩)
    · rename_i error
      obtain ⟨rfl, rfl⟩ : _ = after ∧ some (Except.error error) = outcome := by simpa using resumed
      exact Or.inr (Or.inr ⟨error, rfl, rfl, rfl⟩)
  · simp at resumed

/-- Bytes arrive for a pending read, no more than it asked for. -/
theorem arrives_cases {bytes : Buffer} (arrived : transport.arrives bytes = some after) :
    ∃ size, transport.reading = some ⟨size, .pending⟩ ∧ 0 < bytes.length ∧ bytes.length ≤ size ∧
      after = { transport with reading := some ⟨size, .completed (.ok bytes)⟩ } := by
  unfold arrives at arrived
  split at arrived
  · rename_i size found
    obtain ⟨sized, handed⟩ := Option.ite_none_right_eq_some.mp arrived
    obtain rfl := Option.some.inj handed
    exact ⟨size, found, sized.1, sized.2, rfl⟩
  · simp at arrived

/-- The system fails a pending read. -/
theorem readBreaks_cases {error : SocketError} (broken : transport.readBreaks error = some after) :
    ∃ size, transport.reading = some ⟨size, .pending⟩ ∧
      after = { transport with reading := some ⟨size, .completed (.error error)⟩ } := by
  unfold readBreaks at broken
  split at broken
  · rename_i size found
    obtain rfl := Option.some.inj broken
    exact ⟨size, found, rfl⟩
  · simp at broken

/-- The system takes the next bytes of a pending write. -/
theorem transmits_cases {count : Nat} {bytes : Buffer}
    (transmitted : transport.transmits count = some (after, bytes)) :
    ∃ buffer transferred, transport.writing = some ⟨buffer, transferred, .pending⟩ ∧
      0 < count ∧ transferred + count ≤ buffer.length ∧
      bytes = (buffer.drop transferred).take count ∧
      after = { transport with
        writing := some ⟨buffer, transferred, .completed (.ok count)⟩ } := by
  unfold transmits at transmitted
  split at transmitted
  · rename_i buffer transferred found
    obtain ⟨sized, taken⟩ := Option.ite_none_right_eq_some.mp transmitted
    obtain ⟨rfl, rfl⟩ : _ = after ∧ _ = bytes := by simpa using taken
    exact ⟨buffer, transferred, found, sized.1, sized.2, rfl, rfl⟩
  · simp at transmitted

/-- The system fails a pending write. -/
theorem writeBreaks_cases {error : SocketError} (broken : transport.writeBreaks error = some after) :
    ∃ buffer transferred, transport.writing = some ⟨buffer, transferred, .pending⟩ ∧
      after = { transport with
        writing := some ⟨buffer, transferred, .completed (.error error)⟩ } := by
  unfold writeBreaks at broken
  split at broken
  · rename_i buffer transferred found
    obtain rfl := Option.some.inj broken
    exact ⟨buffer, transferred, found, rfl⟩
  · simp at broken

/-- A closed transport stays closed when its calls are resumed. -/
theorem resumeRead_open {outcome : Except SocketError Buffer}
    (resumed : transport.resumeRead = some (after, outcome)) (shut : transport.open_ = false) :
    after.open_ = false := by
  obtain ⟨call, -, ⟨bytes, -, rfl, -⟩ | ⟨error, -, rfl, -⟩⟩ := resumeRead_cases resumed
  · exact shut
  · exact close_open

/-- A transport that was closed stays closed. -/
theorem resumeWrite_open {outcome : Option (Except SocketError Unit)}
    (resumed : transport.resumeWrite = some (after, outcome)) (shut : transport.open_ = false) :
    after.open_ = false := by
  obtain ⟨call, -, whole | rest | failed⟩ := resumeWrite_cases resumed
  · obtain ⟨count, -, -, rfl, -⟩ := whole
    exact shut
  · obtain ⟨count, -, -, rfl, -⟩ := rest
    exact shut
  · obtain ⟨error, -, rfl, -⟩ := failed
    exact close_open

section Sound

variable (sound : transport.Sound)
include sound

/-- A read that returns leaves the transport sound. -/
theorem Sound.resumeRead {outcome : Except SocketError Buffer}
    (resumed : transport.resumeRead = some (after, outcome)) : after.Sound := by
  obtain ⟨call, -, ⟨bytes, -, rfl, -⟩ | ⟨error, -, rfl, -⟩⟩ := resumeRead_cases resumed
  · exact sound.withoutRead
  · exact sound.withoutRead.close

/-- A write that returns or goes on leaves the transport sound. -/
theorem Sound.resumeWrite {outcome : Option (Except SocketError Unit)}
    (resumed : transport.resumeWrite = some (after, outcome)) : after.Sound := by
  obtain ⟨call, found, whole | rest | failed⟩ := resumeWrite_cases resumed
  · obtain ⟨count, -, -, rfl, -⟩ := whole
    exact sound.withoutWrite
  · obtain ⟨count, -, left, rfl, -⟩ := rest
    exact sound.withoutWrite.writeSome call.buffer call.taken (Nat.le_of_lt left)
  · obtain ⟨error, -, rfl, -⟩ := failed
    exact sound.withoutWrite.close

/-- The system completes a read that is in progress. -/
theorem Sound.completesRead {size : Nat} {outcome : Except SocketError Buffer}
    (within : ∀ bytes, outcome = .ok bytes → 0 < bytes.length ∧ bytes.length ≤ size) :
    { transport with reading := some ⟨size, .completed outcome⟩ }.Sound := by
  refine ⟨sound.agrees, sound.once, ?_, sound.writeOver, ?_, sound.writeWithin⟩
  · rintro - call found
    obtain rfl := Option.some.inj found
    simp
  · intro call found
    obtain rfl := Option.some.inj found
    cases outcome with
    | error error => simp [ReadCall.carried]
    | ok bytes =>
      obtain ⟨some, most⟩ := within bytes rfl
      refine ⟨most, ?_⟩
      intro vacant
      have none : bytes = [] := vacant
      simp [none] at some

/-- The system completes a partial write that is in progress. -/
theorem Sound.completesWrite {buffer : Buffer} {transferred : Nat} {outcome : Except SocketError Nat}
    (within : WriteCall.taken ⟨buffer, transferred, .completed outcome⟩ ≤ buffer.length) :
    { transport with writing := some ⟨buffer, transferred, .completed outcome⟩ }.Sound := by
  refine ⟨sound.agrees, sound.once, sound.readOver, ?_, sound.readWithin, ?_⟩
  · rintro - call found
    obtain rfl := Option.some.inj found
    simp
  · intro call found
    obtain rfl := Option.some.inj found
    exact within

end Sound

end Completions

end TcpTransport

/-- A call of `read` that is over. -/
structure ReadRecord where
  size : Nat
  outcome : Except SocketError Buffer

/-- A call of `write` that is over, with the part of its buffer that was taken. -/
structure WriteRecord where
  buffer : Buffer
  transferred : Nat
  outcome : Except SocketError Unit

/-- What a read returned. -/
def ReadRecord.bytes (record : ReadRecord) : Buffer :=
  match record.outcome with
  | .ok bytes => bytes
  | .error _ => []

/-- What a write transferred. -/
def WriteRecord.bytes (record : WriteRecord) : Buffer := record.buffer.take record.transferred

/-- A transport with the bytes the system handed over and took, and the calls that are
over. -/
structure TransportRun where
  transport : TcpTransport := {}
  arrivals : Buffer := []
  reads : List ReadRecord := []
  transmitted : Buffer := []
  writes : List WriteRecord := []

/-- What can happen next at a transport. -/
inductive TransportEvent where
  | read (size : Nat)
  | resumeRead
  | write (buffer : Buffer)
  | resumeWrite
  | close
  | arrives (bytes : Buffer)
  | readBreaks (error : SocketError)
  | transmits (count : Nat)
  | writeBreaks (error : SocketError)

namespace TransportRun

/-- One call, completion or failure, recorded. -/
def step (run : TransportRun) : TransportEvent → Option TransportRun
  | .read size =>
    if run.transport.reading.isSome then none
    else
      let (transport, outcome) := run.transport.read size
      some { run with
        transport := transport
        reads := run.reads ++ outcome.toList.map (ReadRecord.mk size) }
  | .resumeRead =>
    match run.transport.reading, run.transport.resumeRead with
    | some call, some (transport, outcome) =>
      some { run with transport := transport, reads := run.reads ++ [⟨call.size, outcome⟩] }
    | _, _ => none
  | .write buffer =>
    if run.transport.writing.isSome then none
    else
      let (transport, error) := run.transport.write buffer
      some { run with
        transport := transport
        writes := run.writes ++ error.toList.map fun error => ⟨buffer, 0, .error error⟩ }
  | .resumeWrite =>
    match run.transport.writing, run.transport.resumeWrite with
    | some call, some (transport, outcome) =>
      some { run with
        transport := transport
        writes := run.writes ++ outcome.toList.map (WriteRecord.mk call.buffer call.taken) }
    | _, _ => none
  | .close => some { run with transport := run.transport.close }
  | .arrives bytes =>
    (run.transport.arrives bytes).map fun transport =>
      { run with transport := transport, arrivals := run.arrivals ++ bytes }
  | .readBreaks error =>
    (run.transport.readBreaks error).map fun transport => { run with transport := transport }
  | .transmits count =>
    (run.transport.transmits count).map fun (transport, bytes) =>
      { run with transport := transport, transmitted := run.transmitted ++ bytes }
  | .writeBreaks error =>
    (run.transport.writeBreaks error).map fun transport => { run with transport := transport }

/-- The bytes handed to a read that has not returned yet. -/
def carried (run : TransportRun) : Buffer := (run.transport.reading.map ReadCall.carried).getD []

/-- The bytes taken from a write that has not returned yet. -/
def current (run : TransportRun) : Buffer :=
  (run.transport.writing.map fun call => call.buffer.take call.taken).getD []

/-- What the transport promises to the connection: the bytes read are the bytes that
arrived and the bytes taken are those of the buffers written, each in order and once;
a `write` that returns has transferred its whole buffer; a `read` that fails or reports
the end of the stream, and a `write` that fails, leave the transport closed; the socket
is released once, and nothing stays in progress after that. -/
structure Contract (run : TransportRun) : Prop where
  released : run.transport.releases = if run.transport.isOpen then 0 else 1
  readOver : run.transport.isOpen = false → ∀ call, run.transport.reading = some call →
    call.operation ≠ .pending
  writeOver : run.transport.isOpen = false → ∀ call, run.transport.writing = some call →
    call.operation ≠ .pending
  received : run.arrivals = run.reads.flatMap ReadRecord.bytes ++ run.carried
  sized : ∀ record ∈ run.reads, record.bytes.length ≤ record.size
  ended : ∀ record ∈ run.reads, record.size ≠ 0 → record.bytes = [] → run.transport.isOpen = false
  transmits : run.transmitted = run.writes.flatMap WriteRecord.bytes ++ run.current
  whole : ∀ record ∈ run.writes, record.outcome = .ok () → record.bytes = record.buffer
  lost : ∀ record ∈ run.writes, ∀ error, record.outcome = .error error →
    run.transport.isOpen = false

/-- A sound transport whose history is in order. -/
structure Recorded (run : TransportRun) : Prop where
  sound : run.transport.Sound
  received : run.arrivals = run.reads.flatMap ReadRecord.bytes ++ run.carried
  sized : ∀ record ∈ run.reads, record.bytes.length ≤ record.size
  ended : ∀ record ∈ run.reads, record.size ≠ 0 → record.bytes = [] → run.transport.open_ = false
  transmits : run.transmitted = run.writes.flatMap WriteRecord.bytes ++ run.current
  whole : ∀ record ∈ run.writes, record.outcome = .ok () → record.bytes = record.buffer
  lost : ∀ record ∈ run.writes, ∀ error, record.outcome = .error error →
    run.transport.open_ = false

/-- What is recorded of a run is what its contract asks for. -/
theorem Recorded.contract {run : TransportRun} (recorded : run.Recorded) : run.Contract where
  released := by rw [recorded.sound.isOpen]; exact recorded.sound.once
  readOver := by rw [recorded.sound.isOpen]; exact recorded.sound.readOver
  writeOver := by rw [recorded.sound.isOpen]; exact recorded.sound.writeOver
  received := recorded.received
  sized := recorded.sized
  ended := by rw [recorded.sound.isOpen]; exact recorded.ended
  transmits := recorded.transmits
  whole := recorded.whole
  lost := by rw [recorded.sound.isOpen]; exact recorded.lost

/-- Nothing is recorded of a new transport. -/
theorem create_recorded : ({} : TransportRun).Recorded := by
  refine ⟨⟨rfl, rfl, nofun, nofun, nofun, nofun⟩, rfl, ?_, ?_, rfl, ?_, ?_⟩ <;> simp

section Steps

variable {run : TransportRun} (recorded : run.Recorded)
include recorded

/-- The calls that are over stay in order when the transport goes on with what its
suspended calls carry. -/
theorem Recorded.follows {after : TcpTransport} (sound : after.Sound)
    (shut : run.transport.open_ = false → after.open_ = false)
    (carried : (after.reading.map ReadCall.carried).getD [] = run.carried)
    (current : (after.writing.map fun call => call.buffer.take call.taken).getD [] = run.current) :
    { run with transport := after }.Recorded where
  sound := sound
  received := recorded.received.trans (congrArg _ carried.symm)
  sized := recorded.sized
  ended := fun record member sized vacant => shut (recorded.ended record member sized vacant)
  transmits := recorded.transmits.trans (congrArg _ current.symm)
  whole := recorded.whole
  lost := fun record member error failed => shut (recorded.lost record member error failed)

/-- A `read` that is over returns the bytes it carried. -/
theorem Recorded.returnsRead {after : TcpTransport} (record : ReadRecord) (sound : after.Sound)
    (shut : run.transport.open_ = false → after.open_ = false)
    (gone : after.reading = none) (bytes : record.bytes = run.carried)
    (sized : record.bytes.length ≤ record.size)
    (ended : record.size ≠ 0 → record.bytes = [] → after.open_ = false)
    (current : (after.writing.map fun call => call.buffer.take call.taken).getD [] = run.current) :
    { run with transport := after, reads := run.reads ++ [record] }.Recorded where
  sound := sound
  received := by
    rw [recorded.received, List.flatMap_append, List.flatMap_singleton, bytes]
    simp [carried, gone]
  sized := by
    intro other member
    rcases List.mem_append.mp member with earlier | last
    · exact recorded.sized other earlier
    · obtain rfl := List.mem_singleton.mp last
      exact sized
  ended := by
    intro other member
    rcases List.mem_append.mp member with earlier | last
    · exact fun sized vacant => shut (recorded.ended other earlier sized vacant)
    · obtain rfl := List.mem_singleton.mp last
      exact ended
  transmits := recorded.transmits.trans (congrArg _ current.symm)
  whole := recorded.whole
  lost := fun record member error failed => shut (recorded.lost record member error failed)

/-- A `write` that is over transferred what was taken of it. -/
theorem Recorded.returnsWrite {after : TcpTransport} (record : WriteRecord) (sound : after.Sound)
    (shut : run.transport.open_ = false → after.open_ = false)
    (gone : after.writing = none) (bytes : record.bytes = run.current)
    (whole : record.outcome = .ok () → record.bytes = record.buffer)
    (lost : ∀ error, record.outcome = .error error → after.open_ = false)
    (carried : (after.reading.map ReadCall.carried).getD [] = run.carried) :
    { run with transport := after, writes := run.writes ++ [record] }.Recorded where
  sound := sound
  received := recorded.received.trans (congrArg _ carried.symm)
  sized := recorded.sized
  ended := fun record member sized vacant => shut (recorded.ended record member sized vacant)
  transmits := by
    rw [recorded.transmits, List.flatMap_append, List.flatMap_singleton, bytes]
    simp [current, gone]
  whole := by
    intro other member
    rcases List.mem_append.mp member with earlier | last
    · exact recorded.whole other earlier
    · obtain rfl := List.mem_singleton.mp last
      exact whole
  lost := by
    intro other member
    rcases List.mem_append.mp member with earlier | last
    · exact fun error failed => shut (recorded.lost other earlier error failed)
    · obtain rfl := List.mem_singleton.mp last
      exact lost

/-- A read that begins is recorded when it returns. -/
theorem Recorded.read (idle : run.transport.reading = none) (size : Nat) :
    { run with
      transport := (run.transport.read size).1
      reads := run.reads ++ (run.transport.read size).2.toList.map (ReadRecord.mk size)
      }.Recorded := by
  by_cases usable : run.transport.isOpen
  · simp only [TcpTransport.read, usable, if_true, Option.toList_none, List.map_nil,
      List.append_nil]
    have begun := recorded.sound.read size
    simp only [TcpTransport.read, usable, if_true] at begun
    refine recorded.follows begun id ?_ rfl
    by_cases vacant : size = 0
    · simp [ReadCall.carried, carried, idle, vacant]
    · simp [ReadCall.carried, carried, idle, vacant]
  · simp only [TcpTransport.read, usable, Bool.false_eq_true, if_false]
    refine recorded.returnsRead ⟨size, .ok []⟩ recorded.sound id idle
      (by simp [ReadRecord.bytes, carried, idle]) (Nat.zero_le _) ?_ rfl
    intro _ _
    rw [← recorded.sound.isOpen]
    simpa using usable

/-- A read that returns is recorded with its outcome. -/
theorem Recorded.resumeRead {after : TcpTransport} {call : ReadCall}
    {outcome : Except SocketError Buffer} (found : run.transport.reading = some call)
    (resumed : run.transport.resumeRead = some (after, outcome)) :
    TransportRun.Recorded
      { run with transport := after, reads := run.reads ++ [⟨call.size, outcome⟩] } := by
  have sound := recorded.sound.resumeRead resumed
  obtain ⟨within, carries⟩ := recorded.sound.readWithin call found
  obtain ⟨same, present, returned | failed⟩ := TcpTransport.resumeRead_cases resumed
  · obtain ⟨bytes, stage, rfl, rfl⟩ := returned
    obtain rfl : call = same := Option.some.inj (found.symm.trans present)
    have holds : call.carried = bytes := by simp [ReadCall.carried, stage]
    refine recorded.returnsRead ⟨call.size, .ok bytes⟩ sound id rfl
      (by simp [ReadRecord.bytes, carried, found, holds])
      (by simpa [ReadRecord.bytes, holds] using within) ?_ rfl
    intro sized vacant
    exact absurd stage (carries (holds.trans vacant) sized bytes)
  · obtain ⟨error, stage, rfl, rfl⟩ := failed
    obtain rfl : call = same := Option.some.inj (found.symm.trans present)
    have vacant : ReadRecord.bytes
        ⟨call.size, if error = .eof then .ok [] else .error error⟩ = [] := by
      by_cases last : error = .eof <;> simp [ReadRecord.bytes, last]
    have none : call.carried = [] := by simp [ReadCall.carried, stage]
    exact recorded.returnsRead _ sound (fun _ => TcpTransport.close_open)
      (TcpTransport.close_reading_none rfl) (by rw [vacant]; simp [carried, found, none])
      (by rw [vacant]; exact Nat.zero_le _) (fun _ _ => TcpTransport.close_open)
      TcpTransport.close_current

/-- A write that begins is recorded when it returns. -/
theorem Recorded.write (idle : run.transport.writing = none) (buffer : Buffer) :
    TransportRun.Recorded { run with
      transport := (run.transport.write buffer).1
      writes := run.writes ++ (run.transport.write buffer).2.toList.map fun error =>
        ⟨buffer, 0, .error error⟩ } := by
  by_cases usable : run.transport.isOpen
  · simp only [TcpTransport.write, usable, if_true, Option.toList_none, List.map_nil,
      List.append_nil]
    refine recorded.follows (recorded.sound.writeSome buffer 0 (Nat.zero_le _)) id rfl ?_
    obtain ⟨operation, begun, nothing⟩ := run.transport.writeSome_begins buffer 0
    simp [begun, nothing, current, idle]
  · simp only [TcpTransport.write, usable, Bool.false_eq_true, if_false]
    refine recorded.returnsWrite ⟨buffer, 0, .error .notConnected⟩ recorded.sound id idle
      (by simp [WriteRecord.bytes, current, idle]) (by simp) ?_ rfl
    intro _ _
    rw [← recorded.sound.isOpen]
    simpa using usable

/-- A write that returns is recorded with what it transferred. -/
theorem Recorded.resumeWrite {after : TcpTransport} {call : WriteCall}
    {outcome : Option (Except SocketError Unit)} (found : run.transport.writing = some call)
    (resumed : run.transport.resumeWrite = some (after, outcome)) :
    { run with
      transport := after
      writes := run.writes ++ outcome.toList.map (WriteRecord.mk call.buffer call.taken)
      }.Recorded := by
  have sound := recorded.sound.resumeWrite resumed
  have taken : (WriteRecord.mk call.buffer call.taken (.ok ())).bytes = run.current := by
    simp [WriteRecord.bytes, current, found]
  obtain ⟨same, present, whole | rest | failed⟩ := TcpTransport.resumeWrite_cases resumed
  · obtain ⟨count, -, whole, rfl, rfl⟩ := whole
    obtain rfl : call = same := Option.some.inj (found.symm.trans present)
    refine recorded.returnsWrite ⟨call.buffer, call.taken, .ok ()⟩ sound id rfl taken ?_ (by simp) rfl
    intro _
    exact List.take_of_length_le whole
  · obtain ⟨count, -, left, rfl, rfl⟩ := rest
    obtain rfl : call = same := Option.some.inj (found.symm.trans present)
    simp only [Option.toList_none, List.map_nil, List.append_nil]
    refine recorded.follows sound id rfl ?_
    obtain ⟨operation, begun, nothing⟩ := TcpTransport.writeSome_begins
      { run.transport with writing := none } call.buffer call.taken
    simp [begun, nothing, current, found]
  · obtain ⟨error, stage, rfl, rfl⟩ := failed
    obtain rfl : call = same := Option.some.inj (found.symm.trans present)
    exact recorded.returnsWrite _ sound (fun _ => TcpTransport.close_open)
      (TcpTransport.close_writing_none rfl) taken (by simp) (fun _ _ => TcpTransport.close_open)
      TcpTransport.close_carried

/-- What the system hands over is carried by the read until it returns. -/
theorem Recorded.arrives {after : TcpTransport} {bytes : Buffer}
    (arrived : run.transport.arrives bytes = some after) :
    { run with transport := after, arrivals := run.arrivals ++ bytes }.Recorded := by
  obtain ⟨size, found, positive, bound, rfl⟩ := TcpTransport.arrives_cases arrived
  have within : ∀ handed, (Except.ok bytes : Except SocketError Buffer) = .ok handed →
      0 < handed.length ∧ handed.length ≤ size := by
    intro handed same
    obtain rfl := Except.ok.inj same
    exact ⟨positive, bound⟩
  have nothing : run.carried = [] := by simp [carried, found, ReadCall.carried]
  refine ⟨recorded.sound.completesRead within, ?_, recorded.sized, recorded.ended,
    recorded.transmits, recorded.whole, recorded.lost⟩
  have received := recorded.received
  rw [nothing, List.append_nil] at received
  rw [received]
  rfl

/-- What the system takes is counted for the write until it returns. -/
theorem Recorded.transmitsSome {after : TcpTransport} {count : Nat} {bytes : Buffer}
    (transmitted : run.transport.transmits count = some (after, bytes)) :
    { run with transport := after, transmitted := run.transmitted ++ bytes }.Recorded := by
  obtain ⟨buffer, transferred, found, -, bound, rfl, rfl⟩ :=
    TcpTransport.transmits_cases transmitted
  refine ⟨recorded.sound.completesWrite bound, recorded.received, recorded.sized, recorded.ended,
    ?_, recorded.whole, recorded.lost⟩
  have before : run.current = buffer.take transferred := by simp [current, found, WriteCall.taken]
  rw [recorded.transmits, before, List.append_assoc, ← List.take_add]
  rfl

/-- Every event keeps the history in order. -/
theorem Recorded.step {after : TransportRun} {event : TransportEvent}
    (stepped : run.step event = some after) : after.Recorded := by
  cases event with
  | read size =>
    obtain ⟨idle, begun⟩ := Option.ite_none_left_eq_some.mp stepped
    obtain rfl := Option.some.inj begun
    exact recorded.read (by simpa using idle) size
  | resumeRead =>
    simp only [TransportRun.step] at stepped
    split at stepped
    · rename_i call transport outcome found resumed
      obtain rfl := Option.some.inj stepped
      exact recorded.resumeRead found resumed
    · simp at stepped
  | write buffer =>
    obtain ⟨idle, begun⟩ := Option.ite_none_left_eq_some.mp stepped
    obtain rfl := Option.some.inj begun
    exact recorded.write (by simpa using idle) buffer
  | resumeWrite =>
    simp only [TransportRun.step] at stepped
    split at stepped
    · rename_i call transport outcome found resumed
      obtain rfl := Option.some.inj stepped
      exact recorded.resumeWrite found resumed
    · simp at stepped
  | close =>
    obtain rfl := Option.some.inj stepped
    exact recorded.follows recorded.sound.close (fun _ => TcpTransport.close_open)
      TcpTransport.close_carried TcpTransport.close_current
  | arrives bytes =>
    obtain ⟨transport, arrived, rfl⟩ := Option.map_eq_some_iff.mp stepped
    exact recorded.arrives arrived
  | readBreaks error =>
    obtain ⟨transport, broken, rfl⟩ := Option.map_eq_some_iff.mp stepped
    obtain ⟨size, found, rfl⟩ := TcpTransport.readBreaks_cases broken
    exact recorded.follows (recorded.sound.completesRead (by simp)) id
      (by simp [carried, found, ReadCall.carried]) rfl
  | transmits count =>
    obtain ⟨⟨transport, bytes⟩, transmitted, rfl⟩ := Option.map_eq_some_iff.mp stepped
    exact recorded.transmitsSome transmitted
  | writeBreaks error =>
    obtain ⟨transport, broken, rfl⟩ := Option.map_eq_some_iff.mp stepped
    obtain ⟨buffer, transferred, found, rfl⟩ := TcpTransport.writeBreaks_cases broken
    have within := recorded.sound.writeWithin _ found
    exact recorded.follows (recorded.sound.completesWrite within) id rfl
      (by simp [current, found, WriteCall.taken])

end Steps

/-- The states a transport reaches. -/
def Reachable : TransportRun → Prop := Reachability.Reaches step Reachability.unguarded {}

/-- A transport keeps its contract in every order of calls, of completions of the system
and of closing. -/
theorem transport_contract (run : TransportRun) (reachable : Reachable run) : run.Contract := by
  have recorded : run.Recorded := by
    apply Reachability.Reaches.invariant Recorded create_recorded ?_ reachable
    intro before event after recorded _ stepped
    exact recorded.step stepped
  exact recorded.contract

/-- A buffer is taken in two pieces, the transport is closed while the second piece and a
read are complete but not resumed, and both calls still return. -/
def closedLate : Option TransportRun :=
  Reachability.run step Reachability.unguarded {}
    [.read 4, .write [1, 2, 3], .transmits 2, .resumeWrite, .transmits 1, .arrives [9, 8],
      .close, .resumeWrite, .resumeRead, .write [4]]

/-- The two calls return what was transferred before the close, and the next `write` is
refused. -/
theorem transport_contract_closedLate :
    ∃ run, closedLate = some run ∧ run.transmitted = [1, 2, 3] ∧ run.arrivals = [9, 8] ∧
      run.Contract := by
  have reads : closedLate.map (fun run => (run.transmitted, run.arrivals)) =
      some ([1, 2, 3], [9, 8]) := by decide +kernel
  obtain ⟨run, reached, history⟩ := Option.map_eq_some_iff.mp reads
  exact ⟨run, reached, congrArg Prod.fst history, congrArg Prod.snd history,
    transport_contract run (Reachability.run_reaches _ _ _ _ _ reached)⟩

end TransportRun

end Rillnet
