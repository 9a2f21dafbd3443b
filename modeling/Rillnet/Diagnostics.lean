import Rillnet.FrameCodec
import Rillnet.StatusCode

/-!
# Protocol errors and diagnostics

Error frames carry a status code as two big-endian bytes. Only the codes of the
protocol, serialization, operation, timeout, cancellation and resource bands are
decoded again; anything else is a malformed payload. Diagnostics events are what
the connections report to an application's hook.
-/

namespace Rillnet

/-- The protocol state an error affects. -/
inductive ErrorScope where
  | none
  | operation
  | connection
deriving DecidableEq, Repr

/-- Where an error takes effect, and whether the peer may hear of it. -/
structure ErrorDisposition where
  scope : ErrorScope
  sendToPeer : Bool
  localOnly : Bool
deriving DecidableEq, Repr

/-- How a locally detected status is handled. Transport and protocol failures are
not reported on the wire; all others end only their stream. -/
def errorDisposition (code : StatusCode) : ErrorDisposition :=
  match statusCategory code with
  | .ok => ⟨.none, false, false⟩
  | .transport | .protocol => ⟨.connection, false, true⟩
  | .serialization | .operation | .timeout | .cancellation | .resourceLimit =>
    ⟨.operation, true, false⟩

/-- The status a connection fails with over a frame that does not pass validation. -/
def statusForFrameValidation (error : FrameValidationError) : StatusCode :=
  if error = .unsupportedVersion then .unsupportedVersion else .malformedFrame

/-- No frame is refused with the status of success. -/
theorem statusForFrameValidation_failure (error : FrameValidationError) :
    statusForFrameValidation error ≠ .ok := by
  unfold statusForFrameValidation
  split <;> decide

/-- The terminal error frame of a stream. -/
def makeErrorFrame (stream : StreamId) (status : StatusCode) : Frame :=
  let payload : Buffer :=
    [((status.value >>> 8) &&& 0xFF).toUInt8, (status.value &&& 0xFF).toUInt8]
  { header := {
      type := .response
      flags := .error ||| .endOfStream
      stream := stream
      payloadSize := UInt32.ofNat payload.length }
    payload := payload }

/-- The codes that may arrive in an error frame. -/
def wireStatuses : List StatusCode :=
  [.protocolError, .unsupportedVersion, .malformedFrame, .unknownStream, .serializationError,
    .unknownMessageType, .decodeError, .operationError, .timeoutError, .cancelled,
    .resourceLimitExceeded]

/-- The status carried by an error frame, absent for a payload that is not two
bytes long or whose value is not a code a peer may send. -/
def decodeErrorStatus (frame : Frame) : Option StatusCode :=
  match frame.payload with
  | [high, low] =>
    wireStatuses.find? fun status => status.value.toNat = high.toNat * 256 + low.toNat
  | _ => none

/-- An error frame never carries success. -/
theorem decodeErrorStatus_failure (frame : Frame) (status : StatusCode)
    (decoded : decodeErrorStatus frame = some status) : status ≠ .ok := by
  unfold decodeErrorStatus at decoded
  split at decoded
  · have member := List.mem_of_find?_eq_some decoded
    rintro rfl
    exact absurd member (by decide)
  · simp at decoded

/-- The text that goes with a refused frame. -/
def frameValidationMessage : FrameValidationError → String
  | .unsupportedVersion => "unsupported protocol version"
  | .unknownFrameType => "unknown frame type"
  | .unknownFlags => "unknown frame flags"
  | .invalidFlagCombination => "invalid frame flag combination"
  | .invalidStream => "invalid stream identifier"
  | .payloadLengthMismatch => "payload length mismatch"
  | .payloadTooLarge => "payload exceeds configured limit"
  | .none => "no frame validation error"

/-- The kinds of events an observer is told. -/
inductive DiagnosticsEventType where
  | connectionOpened
  | connectionClosed
  | requestStarted
  | requestCompleted
  | cancellation
  | timeout
  | protocolError
  | bytesTransferred
  | messageTransferred
deriving DecidableEq, Repr

/-- What an observer is told: the fields that no event of its kind uses stay at their
defaults. -/
structure DiagnosticsEvent where
  type : DiagnosticsEventType
  stream : StreamId := ⟨0⟩
  status : StatusCode := .ok
  bytes : Nat := 0
  inbound : Bool := false
  message : String := ""
deriving DecidableEq, Repr

end Rillnet
