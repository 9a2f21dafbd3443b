import Rillnet.FrameCodec

/-!
# Incremental frame decoding

The decoder keeps a partially filled header array, then a partially filled
payload, and appends a frame when the payload is complete. A malformed header
puts it into an error state that only `reset` leaves. The stale bytes that
earlier frames leave in the header array are kept; the payload buffer is empty
after its frame has been moved out.

The loop of `push` is bounded by fuel. `FrameGrammar` proves that the fuel given
by `push` suffices on every history.
-/

namespace Rillnet

/-- The decoder's members. -/
structure FrameDecoder where
  maxPayloadSize : UInt32 := defaultMaxPayloadSize
  headerBytes : Buffer := List.replicate frameHeaderSize 0
  headerBytesSize : Nat := 0
  header : Option FrameHeader := none
  payload : Buffer := []
  payloadBytesSize : Nat := 0
  error : Option FrameValidationError := none
deriving DecidableEq, Repr

namespace FrameDecoder

/-- Copy as many source bytes as the destination still has room for; returns the
destination and the number copied. -/
def copyBytes (source destination : Buffer) (destinationSize : Nat) : Buffer × Nat :=
  let copied := min source.length (sizeSub destination.length destinationSize)
  (destination.take destinationSize ++ source.take copied ++
    destination.drop (destinationSize + copied), copied)

/-- `std::vector::resize`: cut off, or extend with zero bytes. -/
def resize (buffer : Buffer) (size : Nat) : Buffer :=
  buffer.take size ++ List.replicate (size - buffer.length) 0

/-- Interpret the complete header. The candidate has no payload yet, so a length
mismatch is expected and only the checks before it count. -/
def startFrame (decoder : FrameDecoder) : FrameDecoder :=
  match decodeFrameHeader decoder.headerBytes with
  | none => { decoder with error := some .payloadLengthMismatch }
  | some decodedHeader =>
    let candidate : Frame := { header := decodedHeader }
    let validation := validateFrame candidate decoder.maxPayloadSize
    if validation ≠ .none ∧ validation ≠ .payloadLengthMismatch then
      { decoder with error := some validation }
    else
      { decoder with
        header := some decodedHeader
        payload := resize decoder.payload decodedHeader.payloadSize.toNat }

/-- The header part of one loop iteration: the remaining bytes, absent when the
loop is left because the header is incomplete or malformed. -/
def readHeader (decoder : FrameDecoder) (bytes : Buffer) : FrameDecoder × Option Buffer :=
  if decoder.header.isSome then (decoder, some bytes)
  else
    let (headerBytes, copied) := copyBytes bytes decoder.headerBytes decoder.headerBytesSize
    let filled := { decoder with
      headerBytes := headerBytes
      headerBytesSize := decoder.headerBytesSize + copied }
    if filled.headerBytesSize < frameHeaderSize then (filled, none)
    else
      let started := filled.startFrame
      if started.error.isSome then (started, none) else (started, some (bytes.drop copied))

/-- The payload part of one loop iteration: the remaining bytes and the frame
completed by it, if any. -/
def readPayload (decoder : FrameDecoder) (bytes : Buffer) : FrameDecoder × Buffer × List Frame :=
  let (payload, copied) := copyBytes bytes decoder.payload decoder.payloadBytesSize
  let payloadBytesSize := decoder.payloadBytesSize + copied
  if payloadBytesSize = payload.length then
    ({ decoder with header := none, headerBytesSize := 0, payload := [], payloadBytesSize := 0 },
      bytes.drop copied, [{ header := decoder.header.getD {}, payload := payload }])
  else
    ({ decoder with payload := payload, payloadBytesSize := payloadBytesSize },
      bytes.drop copied, [])

/-- The loop of `push`, with the frames found so far. -/
def pushLoop : Nat → FrameDecoder → Buffer → List Frame → FrameDecoder × List Frame
  | 0, decoder, _, frames => (decoder, frames)
  | fuel + 1, decoder, bytes, frames =>
    if bytes.isEmpty || decoder.error.isSome then (decoder, frames)
    else
      match decoder.readHeader bytes with
      | (stopped, none) => (stopped, frames)
      | (started, some afterHeader) =>
        let (after, rest, found) := started.readPayload afterHeader
        pushLoop fuel after rest (frames ++ found)

/-- Feed bytes and return the frames they complete. -/
def push (decoder : FrameDecoder) (bytes : Buffer) : FrameDecoder × List Frame :=
  pushLoop (bytes.length + 1) decoder bytes []

def hasIncompleteFrame (decoder : FrameDecoder) : Bool :=
  decoder.header.isSome || decide (decoder.headerBytesSize ≠ 0)

/-- Back to the state between frames; the header array keeps its bytes. -/
def reset (decoder : FrameDecoder) : FrameDecoder :=
  { decoder with
    header := none
    headerBytesSize := 0
    payload := []
    payloadBytesSize := 0
    error := none }

end FrameDecoder

end Rillnet
