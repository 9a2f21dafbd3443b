import Mathlib.Algebra.Group.Nat.Defs
import Mathlib.Data.List.Basic

/-!
# Frames

The logical frame exchanged by the protocol layer: protocol version, frame type,
flags, stream identifier and declared payload size, followed by the payload.
Frame types and flags are eight-bit values rather than enumerations with two or
three inhabitants: a header decoded from the wire holds whatever byte the peer
sent until `validateFrame` has looked at it.
-/

namespace Rillnet

/-- The bytes of a payload or of a transport buffer. -/
abbrev Buffer := List UInt8

/-- Addition of `size_t` values, which wraps at 64 bits. -/
def sizeAdd (left right : Nat) : Nat := (left + right) % 2 ^ 64

/-- Subtraction of `size_t` values, which wraps at 64 bits. -/
def sizeSub (left right : Nat) : Nat := if right ≤ left then left - right else 2 ^ 64 - (right - left)

/-- Without underflow the machine subtraction is the mathematical one. -/
theorem sizeSub_of_le (left right : Nat) (fits : right ≤ left) : sizeSub left right = left - right := by
  simp [sizeSub, fits]

/-- Without overflow the machine addition is the mathematical one. -/
theorem sizeAdd_of_lt (left right : Nat) (fits : left + right < 2 ^ 64) :
    sizeAdd left right = left + right := Nat.mod_eq_of_lt fits

/-- The wire protocol version carried by every frame. -/
structure ProtocolVersion where
  major : UInt16
  minor : UInt16
deriving DecidableEq, Repr

/-- The version implemented by this release. -/
def currentProtocolVersion : ProtocolVersion := ⟨0, 1⟩

/-- An integer given a type of its own by a tag. -/
structure StrongId (Tag ValueType : Type) where
  value : ValueType
deriving DecidableEq, Repr

/-- The zero value means that no identifier is assigned. -/
def StrongId.isValid {Tag ValueType : Type} [DecidableEq ValueType] [OfNat ValueType 0]
    (id : StrongId Tag ValueType) : Bool :=
  decide (id.value ≠ 0)

/-- Identifiers with one value are one identifier. -/
theorem StrongId.eq_of_value {Tag ValueType : Type} {left right : StrongId Tag ValueType}
    (same : left.value = right.value) : left = right := by
  cases left
  cases right
  exact congrArg StrongId.mk same

inductive StreamIdTag
deriving DecidableEq, Repr

inductive MessageTypeTag
deriving DecidableEq, Repr

/-- Identifies one request/response exchange within a connection. -/
abbrev StreamId := StrongId StreamIdTag UInt64

/-- Identifies the type of a protocol message. -/
abbrev MessageType := StrongId MessageTypeTag UInt32

/-- The role of a frame, as the byte it occupies on the wire. -/
structure FrameType where
  value : UInt8
deriving DecidableEq, Repr

def FrameType.request : FrameType := ⟨1⟩
def FrameType.response : FrameType := ⟨2⟩

/-- Bit flags, as the byte they occupy on the wire. -/
structure FrameFlags where
  value : UInt8
deriving DecidableEq, Repr

namespace FrameFlags

def none : FrameFlags := ⟨0⟩
/-- The terminal frame of its stream. -/
def endOfStream : FrameFlags := ⟨(1 : UInt8) <<< 0⟩
/-- Requests or acknowledges cancellation of the stream's operation. -/
def cancel : FrameFlags := ⟨(1 : UInt8) <<< 1⟩
/-- The payload is a structured protocol error. -/
def error : FrameFlags := ⟨(1 : UInt8) <<< 2⟩

instance : OrOp FrameFlags := ⟨fun left right => ⟨left.value ||| right.value⟩⟩
instance : AndOp FrameFlags := ⟨fun left right => ⟨left.value &&& right.value⟩⟩
instance : Complement FrameFlags := ⟨fun flags => ⟨~~~flags.value⟩⟩

end FrameFlags

/-- Whether every bit of `flag` is set. -/
def hasFlag (flags flag : FrameFlags) : Bool := decide (flags &&& flag = flag)

/-- A frame header before its encoding. -/
structure FrameHeader where
  version : ProtocolVersion := currentProtocolVersion
  type : FrameType := .request
  flags : FrameFlags := .none
  stream : StreamId := ⟨0⟩
  payloadSize : UInt32 := 0
deriving DecidableEq, Repr

/-- A header with the payload it owns. -/
structure Frame where
  header : FrameHeader := {}
  payload : Buffer := []
deriving DecidableEq, Repr

/-- A request that is not a cancellation. -/
def Frame.isRequest (frame : Frame) : Bool :=
  decide (frame.header.type = .request) && !hasFlag frame.header.flags .cancel

/-- Sixteen mebibytes. -/
def defaultMaxPayloadSize : UInt32 := 16 * 1024 * 1024

/-- The outcome of validating a frame. -/
inductive FrameValidationError where
  | none
  | unsupportedVersion
  | unknownFrameType
  | unknownFlags
  | invalidFlagCombination
  | invalidStream
  | payloadLengthMismatch
  | payloadTooLarge
deriving DecidableEq, Repr

def isKnownFrameType (type : FrameType) : Bool :=
  decide (type = .request) || decide (type = .response)

def hasOnlyKnownFlags (flags : FrameFlags) : Bool :=
  let knownFlags := FrameFlags.endOfStream ||| FrameFlags.cancel ||| FrameFlags.error
  decide (flags &&& ~~~knownFlags = FrameFlags.none)

/-- The checks in their order; the declared size is compared with the limit
before it is compared with the bytes owned. -/
def validateFrame (frame : Frame) (maxPayloadSize : UInt32 := defaultMaxPayloadSize) :
    FrameValidationError :=
  if frame.header.version ≠ currentProtocolVersion then .unsupportedVersion
  else if !isKnownFrameType frame.header.type then .unknownFrameType
  else if !hasOnlyKnownFlags frame.header.flags then .unknownFlags
  else if hasFlag frame.header.flags .cancel && hasFlag frame.header.flags .error then
    .invalidFlagCombination
  else if !frame.header.stream.isValid then .invalidStream
  else if frame.header.payloadSize > maxPayloadSize then .payloadTooLarge
  else if frame.payload.length > 4294967295 ∨
      frame.header.payloadSize.toNat ≠ frame.payload.length then .payloadLengthMismatch
  else .none

end Rillnet
