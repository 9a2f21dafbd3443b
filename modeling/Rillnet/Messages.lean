import Rillnet.FrameCodec
import Rillnet.StatusCode
import Mathlib.Data.List.AList

/-!
# Messages: codec, registry and payload encoding

A codec turns values of the application's message types into bodies and back.
The registry assigns wire identifiers to types, per protocol version. A payload
is the wire identifier of the message's type followed by the codec's body.

Message types are the elements of `τ`, standing for C++ types told apart by their
`std::type_index`, and the values of a type `type` are the elements of `ν type`.
-/

namespace Rillnet

/-- The result of encoding a value; success comes with a payload. -/
structure EncodeResult where
  payload : Option Buffer
  status : StatusCode
  message : String
deriving DecidableEq, Repr

namespace EncodeResult

def ok (result : EncodeResult) : Bool := decide (result.status = .ok)
def success (payload : Buffer) : EncodeResult := ⟨some payload, .ok, ""⟩
def failure (status : StatusCode) (message : String) : EncodeResult := ⟨none, status, message⟩

end EncodeResult

/-- The result of decoding a value; success comes with the value. -/
structure DecodeResult (α : Type) where
  value : Option α
  status : StatusCode
  message : String
deriving DecidableEq, Repr

namespace DecodeResult

variable {α : Type}

def ok (result : DecodeResult α) : Bool := decide (result.status = .ok)
def success (value : α) : DecodeResult α := ⟨some value, .ok, ""⟩
def failure (status : StatusCode) (message : String) : DecodeResult α := ⟨none, status, message⟩

end DecodeResult

/-- A serialization technology chosen by the application: which types it
supports, and how their values become bodies and back. -/
structure Codec (τ : Type) (ν : τ → Type) where
  supports : τ → Bool
  encode : (type : τ) → ν type → EncodeResult
  decode : (type : τ) → Buffer → DecodeResult (ν type)

inductive MessageRegistrationError where
  | none
  | invalidId
  | duplicateId
  | duplicateType
  | unsupportedMessageType
deriving DecidableEq, Repr

structure MessageRegistrationResult where
  error : MessageRegistrationError := .none
  message : String := ""
deriving DecidableEq, Repr

/-- The two lookup tables of one protocol version. -/
structure VersionRegistrations (τ : Type) where
  byId : AList (fun _ : MessageType => τ) := ∅
  byType : AList (fun _ : τ => MessageType) := ∅

/-- Registrations by protocol version. -/
structure MessageRegistry (τ : Type) where
  registrations : AList (fun _ : ProtocolVersion => VersionRegistrations τ) := ∅

section Registry

variable {τ : Type} [DecidableEq τ] {ν : τ → Type}

namespace MessageRegistry

/-- Register a type under an identifier. The version's entry is created before
the identifier and the type are looked up in it. -/
def registerMessage (registry : MessageRegistry τ) (codec : Codec τ ν) (type : τ)
    (version : ProtocolVersion) (id : MessageType) :
    MessageRegistry τ × MessageRegistrationResult :=
  if !id.isValid then (registry, ⟨.invalidId, "message id must be non-zero"⟩)
  else
    let registrations := (registry.registrations.lookup version).getD {}
    let present : MessageRegistry τ :=
      { registrations := registry.registrations.insert version registrations }
    if (registrations.byId.lookup id).isSome then
      (present, ⟨.duplicateId, "message id is already registered"⟩)
    else if (registrations.byType.lookup type).isSome then
      (present, ⟨.duplicateType, "message type is already registered"⟩)
    else if !codec.supports type then
      (present, ⟨.unsupportedMessageType, "message type is not supported by the registry codec"⟩)
    else
      ({ registrations := registry.registrations.insert version
          { byId := registrations.byId.insert id type
            byType := registrations.byType.insert type id } }, {})

/-- Whether a type is registered in a version. -/
def containsType (registry : MessageRegistry τ) (type : τ)
    (version : ProtocolVersion := currentProtocolVersion) : Bool :=
  match registry.registrations.lookup version with
  | none => false
  | some registrations => (registrations.byType.lookup type).isSome

/-- Whether a wire identifier is registered in a version. -/
def containsId (registry : MessageRegistry τ) (id : MessageType)
    (version : ProtocolVersion := currentProtocolVersion) : Bool :=
  match registry.registrations.lookup version with
  | none => false
  | some registrations => (registrations.byId.lookup id).isSome

/-- The wire identifier of a type in a version. -/
def messageType (registry : MessageRegistry τ) (type : τ)
    (version : ProtocolVersion := currentProtocolVersion) : Option MessageType :=
  match registry.registrations.lookup version with
  | none => none
  | some registrations => registrations.byType.lookup type

/-- The type registered for a wire identifier in a version. -/
def typeOf (registry : MessageRegistry τ) (id : MessageType)
    (version : ProtocolVersion := currentProtocolVersion) : Option τ :=
  match registry.registrations.lookup version with
  | none => none
  | some registrations => registrations.byId.lookup id

end MessageRegistry

/-- A wire identifier occupies four bytes ahead of the body. -/
def messageTypeSize : Nat := 4

/-- The result of encoding a message into a frame. -/
structure FrameEncodeResult where
  frame : Option Frame
  status : StatusCode
  message : String
deriving DecidableEq, Repr

namespace FrameEncodeResult

def ok (result : FrameEncodeResult) : Bool := decide (result.status = .ok)
def success (frame : Frame) : FrameEncodeResult := ⟨some frame, .ok, ""⟩
def failure (status : StatusCode) (message : String) : FrameEncodeResult := ⟨none, status, message⟩

end FrameEncodeResult

/-- The wire identifier followed by the codec's body. -/
def encodeMessagePayload (registry : MessageRegistry τ) (codec : Codec τ ν) (type : τ)
    (value : ν type) (version : ProtocolVersion := currentProtocolVersion) : EncodeResult :=
  match registry.messageType type version with
  | none => .failure .unknownMessageType "message type is not registered"
  | some wireType =>
    let encoded := codec.encode type value
    if !encoded.ok then encoded
    else .success (writeBe32 wireType.value ++ encoded.payload.getD [])

/-- The wire identifier at the front of a payload, if it is long enough. -/
def peekMessageType (payload : Buffer) : Option MessageType :=
  if payload.length < messageTypeSize then none else some ⟨readBe32 payload⟩

/-- Check the wire identifier against the type's registration, then let the
codec decode the body. -/
def decodeMessagePayload (registry : MessageRegistry τ) (codec : Codec τ ν) (type : τ)
    (payload : Buffer) (version : ProtocolVersion := currentProtocolVersion) :
    DecodeResult (ν type) :=
  match peekMessageType payload with
  | none => .failure .decodeError "payload is too small to contain a message type"
  | some wireType =>
    if registry.messageType type version ≠ some wireType then
      .failure .unknownMessageType "payload message type does not match Message"
    else codec.decode type (payload.drop messageTypeSize)

/-- Encode a message into a complete frame for a stream. -/
def encodeMessage (registry : MessageRegistry τ) (codec : Codec τ ν) (type : τ) (value : ν type)
    (stream : StreamId) (frameType : FrameType := .request) (flags : FrameFlags := .none)
    (maxPayloadSize : UInt32 := defaultMaxPayloadSize)
    (version : ProtocolVersion := currentProtocolVersion) : FrameEncodeResult :=
  let encoded := encodeMessagePayload registry codec type value version
  if !encoded.ok then .failure encoded.status encoded.message
  else
    let payload := encoded.payload.getD []
    if payload.length > maxPayloadSize.toNat then
      .failure .resourceLimitExceeded "encoded message exceeds the maximum payload size"
    else
      .success {
        header := {
          version := version
          type := frameType
          flags := flags
          stream := stream
          payloadSize := UInt32.ofNat payload.length }
        payload := payload }

/-- Decode a frame's payload under the frame's own version. -/
def decodeMessage (registry : MessageRegistry τ) (codec : Codec τ ν) (type : τ) (frame : Frame) :
    DecodeResult (ν type) :=
  decodeMessagePayload registry codec type frame.payload frame.header.version

/-- The built-in codec: a value is its in-memory bytes, of a fixed size for each
type. -/
def podCodec (size : τ → Nat) (bytes : (type : τ) → ν type → Buffer)
    (value : (type : τ) → Buffer → ν type) : Codec τ ν where
  supports := fun _ => true
  encode := fun type object => .success (bytes type object)
  decode := fun type payload =>
    if payload.length ≠ size type then
      .failure .decodeError "payload size does not match decoded type"
    else .success (value type payload)

/-- An encoded message is a frame as asked for that declares and owns the encoded
payload, within the limit. -/
theorem encodeMessage_success (registry : MessageRegistry τ) (codec : Codec τ ν) (type : τ)
    (value : ν type) (stream : StreamId) (frameType : FrameType) (flags : FrameFlags)
    (maxPayloadSize : UInt32) (version : ProtocolVersion) (frame : Frame)
    (encoded : (encodeMessage registry codec type value stream frameType flags maxPayloadSize
      version).frame = some frame) :
    (encodeMessagePayload registry codec type value version).ok = true ∧
      frame.payload = (encodeMessagePayload registry codec type value version).payload.getD [] ∧
      frame.header = {
        version := version
        type := frameType
        flags := flags
        stream := stream
        payloadSize := UInt32.ofNat frame.payload.length } ∧
      frame.payload.length ≤ maxPayloadSize.toNat := by
  unfold encodeMessage at encoded
  dsimp only at encoded
  split at encoded
  · simp [FrameEncodeResult.failure] at encoded
  · rename_i ok
    split at encoded
    · simp [FrameEncodeResult.failure] at encoded
    · rename_i within
      obtain rfl := Option.some.inj encoded
      exact ⟨by simpa using ok, rfl, rfl, Nat.le_of_not_lt within⟩

/-- What an encoded message is: a frame of the given kind on the given stream that
declares the payload it owns, within the limit. -/
theorem encodeMessage_frame (registry : MessageRegistry τ) (codec : Codec τ ν) (type : τ)
    (value : ν type) (stream : StreamId) (frameType : FrameType) (flags : FrameFlags) (frame : Frame)
    (encoded : (encodeMessage registry codec type value stream frameType flags).frame = some frame) :
    frame.header.version = currentProtocolVersion ∧ frame.header.type = frameType ∧
      frame.header.flags = flags ∧ frame.header.stream = stream ∧
      frame.header.payloadSize = UInt32.ofNat frame.payload.length ∧
      frame.payload.length ≤ defaultMaxPayloadSize.toNat := by
  obtain ⟨-, -, header, within⟩ := encodeMessage_success registry codec type value stream frameType
    flags defaultMaxPayloadSize currentProtocolVersion frame encoded
  rw [header]
  exact ⟨rfl, rfl, rfl, rfl, rfl, within⟩

/-- A frame that declares a payload it owns, within the limit, on a stream, passes
every check if its kind and flags do. -/
theorem valid_frame (frame : Frame) (version : frame.header.version = currentProtocolVersion)
    (kind : isKnownFrameType frame.header.type = true)
    (flags : hasOnlyKnownFlags frame.header.flags = true)
    (combination : (hasFlag frame.header.flags .cancel && hasFlag frame.header.flags .error) = false)
    (stream : frame.header.stream.value ≠ 0)
    (declared : frame.header.payloadSize = UInt32.ofNat frame.payload.length)
    (within : frame.payload.length ≤ defaultMaxPayloadSize.toNat) :
    validateFrame frame = .none := by
  have limit : defaultMaxPayloadSize.toNat = 16777216 := by decide
  have size : frame.header.payloadSize.toNat = frame.payload.length := by
    rw [declared]
    have width : UInt32.size = 4294967296 := rfl
    exact UInt32.toNat_ofNat_of_lt (by omega)
  have small : ¬frame.header.payloadSize > defaultMaxPayloadSize := by
    rw [gt_iff_lt, UInt32.lt_iff_toNat_lt]
    omega
  have owned : ¬(frame.payload.length > 4294967295 ∨
      frame.header.payloadSize.toNat ≠ frame.payload.length) := by omega
  have assigned : frame.header.stream.isValid = true := by simp [StrongId.isValid, stream]
  simp only [validateFrame, version, kind, flags, combination, assigned, small, owned]
  simp

end Registry

/-- The built-in codec for messages of one byte. -/
def byteCodec : Codec Unit (fun _ => UInt8) :=
  podCodec (fun _ => 1) (fun _ byte => [byte]) (fun _ payload => payload.headD 0)

/-- A registry with the one-byte message type under identifier seven. -/
def byteRegistry : MessageRegistry Unit :=
  (({} : MessageRegistry Unit).registerMessage byteCodec () currentProtocolVersion ⟨7⟩).1

end Rillnet
