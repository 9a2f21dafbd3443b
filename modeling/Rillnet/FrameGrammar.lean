import Rillnet.FrameDecoder
import Rillnet.Library.Transducer

/-!
# The frame grammar and its incremental decoder

`Progress` says what the decoder is for: it has received part of a header, or a
sound header and part of its payload, or a malformed header. Bytes move it one
at a time. `Represents` relates the decoder's members to it, ignoring the stale
bytes the members still hold. Every `push` then feeds its bytes to `Progress`,
which makes the decoder independent of how the input was cut and gives its
language: encodings of valid frames, then an incomplete or a malformed one.
-/

namespace Rillnet.FrameGrammar

/-- The header checks in the order `validateFrame` makes them, each with the
error it reports. -/
def headerChecks (limit : UInt32) : List (FrameValidationError × (FrameHeader → Bool)) :=
  [(.unsupportedVersion, fun header => decide (header.version = currentProtocolVersion)),
    (.unknownFrameType, fun header => isKnownFrameType header.type),
    (.unknownFlags, fun header => hasOnlyKnownFlags header.flags),
    (.invalidFlagCombination,
      fun header => !(hasFlag header.flags .cancel && hasFlag header.flags .error)),
    (.invalidStream, fun header => header.stream.isValid),
    (.payloadTooLarge, fun header => decide (header.payloadSize ≤ limit))]

/-- The error of the first check a header fails. -/
def firstFailing (limit : UInt32) (header : FrameHeader) : Option FrameValidationError :=
  ((headerChecks limit).find? fun check => !check.2 header).map Prod.fst

/-- Validation is the header checks followed by the comparison of lengths. -/
theorem validateFrame_eq (frame : Frame) (limit : UInt32) :
    validateFrame frame limit =
      match firstFailing limit frame.header with
      | some error => error
      | none =>
        if frame.payload.length > 4294967295 ∨
            frame.header.payloadSize.toNat ≠ frame.payload.length then .payloadLengthMismatch
        else .none := by
  unfold validateFrame firstFailing headerChecks
  by_cases version : frame.header.version = currentProtocolVersion
  · cases type : isKnownFrameType frame.header.type
    · simp [version, type]
    · cases flags : hasOnlyKnownFlags frame.header.flags
      · simp [version, type, flags]
      · cases combined :
            (hasFlag frame.header.flags .cancel && hasFlag frame.header.flags .error)
        · cases stream : frame.header.stream.isValid
          · simp [version, type, flags, combined, stream]
          · by_cases size : frame.header.payloadSize ≤ limit
            · simp [version, type, flags, combined, stream, size, UInt32.not_lt.mpr size]
            · simp [version, type, flags, combined, stream, size, UInt32.not_le.mp size]
        · simp [version, type, flags, combined]
  · simp [version]

/-- No header check reports the length mismatch. -/
theorem firstFailing_ne_mismatch (limit : UInt32) (header : FrameHeader)
    (error : FrameValidationError) (failing : firstFailing limit header = some error) :
    error ≠ .none ∧ error ≠ .payloadLengthMismatch := by
  obtain ⟨check, found, rfl⟩ := Option.map_eq_some_iff.mp failing
  have member := List.mem_of_find?_eq_some found
  simp only [headerChecks, List.mem_cons, List.not_mem_nil, or_false] at member
  rcases member with rfl | rfl | rfl | rfl | rfl | rfl <;> simp

/-- A frame is valid exactly when its header passes every check and declares the
payload it owns. -/
theorem valid_iff (frame : Frame) (limit : UInt32) :
    validateFrame frame limit = .none ↔
      firstFailing limit frame.header = none ∧
        frame.payload.length = frame.header.payloadSize.toNat := by
  rw [validateFrame_eq]
  cases failing : firstFailing limit frame.header with
  | some error => simp [(firstFailing_ne_mismatch limit _ error failing).1]
  | none =>
    have small := frame.header.payloadSize.toNat_lt
    simp only [true_and]
    constructor
    · intro valid
      split at valid
      · exact absurd valid (by decide)
      · omega
    · intro same
      rw [if_neg]
      omega

/-- What has been received since the last complete frame. -/
inductive Progress where
  | inHeader (received : Buffer)
  | inPayload (header : FrameHeader) (received : Buffer)
  | malformed (error : FrameValidationError)
deriving DecidableEq, Repr

namespace Progress

/-- A complete header is refused, is a whole frame already, or awaits a payload. -/
def accept (limit : UInt32) (header : FrameHeader) : Progress × List Frame :=
  match firstFailing limit header with
  | some error => (.malformed error, [])
  | none =>
    if header.payloadSize.toNat = 0 then (.inHeader [], [{ header := header }])
    else (.inPayload header [], [])

/-- Receive one byte. -/
def step (limit : UInt32) : Progress → UInt8 → Progress × List Frame
  | .malformed error, _ => (.malformed error, [])
  | .inHeader received, byte =>
    match decodeFrameHeader (received ++ [byte]) with
    | none => (.inHeader (received ++ [byte]), [])
    | some header => accept limit header
  | .inPayload header received, byte =>
    if (received ++ [byte]).length < header.payloadSize.toNat then
      (.inPayload header (received ++ [byte]), [])
    else (.inHeader [], [{ header := header, payload := received ++ [byte] }])

def error : Progress → Option FrameValidationError
  | .malformed error => some error
  | _ => none

/-- Whether part of a frame has been received. -/
def incomplete : Progress → Bool
  | .inHeader received => !received.isEmpty
  | _ => true

end Progress

section Feeding

variable (limit : UInt32)

/-- Bytes that do not complete the header are kept. -/
theorem feed_header_short (received bytes : Buffer)
    (short : (received ++ bytes).length < frameHeaderSize) :
    Transducer.feed (Progress.step limit) (.inHeader received) bytes =
      (.inHeader (received ++ bytes), []) := by
  induction bytes generalizing received with
  | nil => simp [Transducer.feed]
  | cons byte rest inductionHypothesis =>
    have one : (received ++ [byte]).length < frameHeaderSize := by
      simp only [List.length_append, List.length_cons] at short ⊢
      simp only [List.length_nil]
      omega
    have same : received ++ [byte] ++ rest = received ++ byte :: rest := by simp
    have tail := inductionHypothesis (received ++ [byte]) (same ▸ short)
    simp only [Transducer.feed, Progress.step, decodeFrameHeader, if_pos one, tail, same,
      List.nil_append]

/-- The byte that completes the header decides it. -/
theorem feed_header_full (received bytes : Buffer) (header : FrameHeader)
    (short : received.length < frameHeaderSize)
    (full : (received ++ bytes).length = frameHeaderSize)
    (decoded : decodeFrameHeader (received ++ bytes) = some header) :
    Transducer.feed (Progress.step limit) (.inHeader received) bytes =
      Progress.accept limit header := by
  rcases List.eq_nil_or_concat bytes with rfl | ⟨front, last, rfl⟩
  · simp only [List.append_nil] at full
    omega
  · have before : (received ++ front).length < frameHeaderSize := by
      simp only [List.concat_eq_append, List.length_append, List.length_singleton] at full ⊢
      omega
    have complete : decodeFrameHeader (received ++ front ++ [last]) = some header := by
      simpa using decoded
    rw [List.concat_eq_append, Transducer.feed_concat, feed_header_short limit received front before]
    simp only [Progress.step, complete, List.nil_append]

/-- Bytes beyond the header go to whatever the header starts. -/
theorem feed_header_past (received bytes : Buffer) (header : FrameHeader) (missing : Nat)
    (short : received.length < frameHeaderSize)
    (full : (received ++ bytes.take missing).length = frameHeaderSize)
    (decoded : decodeFrameHeader (received ++ bytes.take missing) = some header) :
    Transducer.feed (Progress.step limit) (.inHeader received) bytes =
      ((Transducer.feed (Progress.step limit) (Progress.accept limit header).1
        (bytes.drop missing)).1,
       (Progress.accept limit header).2 ++ (Transducer.feed (Progress.step limit)
        (Progress.accept limit header).1 (bytes.drop missing)).2) := by
  have whole := Transducer.feed_append (Progress.step limit) (.inHeader received)
    (bytes.take missing) (bytes.drop missing)
  rwa [List.take_append_drop,
    feed_header_full limit received (bytes.take missing) header short full decoded] at whole

/-- Bytes that do not complete the payload are kept. -/
theorem feed_payload_short (header : FrameHeader) (received bytes : Buffer)
    (short : (received ++ bytes).length < header.payloadSize.toNat) :
    Transducer.feed (Progress.step limit) (.inPayload header received) bytes =
      (.inPayload header (received ++ bytes), []) := by
  induction bytes generalizing received with
  | nil => simp [Transducer.feed]
  | cons byte rest inductionHypothesis =>
    have one : (received ++ [byte]).length < header.payloadSize.toNat := by
      simp only [List.length_append, List.length_cons] at short ⊢
      simp only [List.length_nil]
      omega
    have same : received ++ [byte] ++ rest = received ++ byte :: rest := by simp
    have tail := inductionHypothesis (received ++ [byte]) (same ▸ short)
    simp only [Transducer.feed, Progress.step, if_pos one, tail, same, List.nil_append]

/-- The byte that completes the payload completes the frame. -/
theorem feed_payload_full (header : FrameHeader) (received bytes : Buffer)
    (short : received.length < header.payloadSize.toNat)
    (full : (received ++ bytes).length = header.payloadSize.toNat) :
    Transducer.feed (Progress.step limit) (.inPayload header received) bytes =
      (.inHeader [], [{ header := header, payload := received ++ bytes }]) := by
  rcases List.eq_nil_or_concat bytes with rfl | ⟨front, last, rfl⟩
  · simp only [List.append_nil] at full
    omega
  · have before : (received ++ front).length < header.payloadSize.toNat := by
      simp only [List.concat_eq_append, List.length_append, List.length_singleton] at full ⊢
      omega
    have complete : ¬(received ++ front ++ [last]).length < header.payloadSize.toNat := by
      simp only [List.concat_eq_append, List.length_append, List.length_singleton] at full ⊢
      omega
    rw [List.concat_eq_append, Transducer.feed_concat,
      feed_payload_short limit header received front before]
    simp only [Progress.step, if_neg complete, List.nil_append]
    rw [List.append_assoc]

/-- A malformed header absorbs all further input. -/
theorem feed_malformed (error : FrameValidationError) (bytes : Buffer) :
    Transducer.feed (Progress.step limit) (.malformed error) bytes = (.malformed error, []) :=
  Transducer.feed_absorbing _ _ (fun _ => rfl) bytes

end Feeding

/-- The members of a decoder that has made the given progress. Only the bytes
already received matter; the rest of the header array and of the payload buffer
is stale or zero. -/
def Represents (limit : UInt32) (decoder : FrameDecoder) : Progress → Prop
  | .inHeader received =>
    decoder.maxPayloadSize = limit ∧ decoder.headerBytes.length = frameHeaderSize ∧
      decoder.error = none ∧ decoder.header = none ∧ decoder.payloadBytesSize = 0 ∧
      decoder.headerBytesSize = received.length ∧ received.length < frameHeaderSize ∧
      decoder.headerBytes.take received.length = received
  | .inPayload header received =>
    decoder.maxPayloadSize = limit ∧ decoder.headerBytes.length = frameHeaderSize ∧
      decoder.error = none ∧ decoder.header = some header ∧
      decoder.payload.length = header.payloadSize.toNat ∧
      decoder.payloadBytesSize = received.length ∧
      received.length < header.payloadSize.toNat ∧
      decoder.payload.take received.length = received
  | .malformed error =>
    decoder.maxPayloadSize = limit ∧ decoder.headerBytes.length = frameHeaderSize ∧
      decoder.error = some error ∧ decoder.headerBytesSize ≠ 0

/-- The queries of a decoder are determined by its progress. -/
theorem represents_observed (limit : UInt32) (decoder : FrameDecoder) (progress : Progress)
    (represented : Represents limit decoder progress) :
    decoder.error = progress.error ∧ decoder.hasIncompleteFrame = progress.incomplete := by
  cases progress with
  | inHeader received =>
    obtain ⟨-, -, error, header, -, size, -, -⟩ := represented
    refine ⟨error, ?_⟩
    cases received <;> simp [FrameDecoder.hasIncompleteFrame, Progress.incomplete, header, size]
  | inPayload header received =>
    obtain ⟨-, -, error, started, -⟩ := represented
    exact ⟨error, by simp [FrameDecoder.hasIncompleteFrame, Progress.incomplete, started]⟩
  | malformed error =>
    obtain ⟨-, -, failed, size⟩ := represented
    exact ⟨failed, by simp [FrameDecoder.hasIncompleteFrame, Progress.incomplete, size]⟩

section Copying

variable (source destination received : Buffer) (position copied : Nat)

/-- Copying behind the received bytes keeps them, appends the source bytes that
fit and does not change the destination's length. -/
theorem copyBytes_exact (reached : position = received.length)
    (within : received.length ≤ destination.length)
    (held : destination.take received.length = received)
    (fitting : copied = min source.length (destination.length - received.length)) :
    ∃ updated, FrameDecoder.copyBytes source destination position = (updated, copied) ∧
      updated.length = destination.length ∧
      updated.take (received.length + copied) = received ++ source.take copied := by
  subst reached
  have taken : (source.take copied).length = copied := by
    rw [List.length_take]
    omega
  refine ⟨received ++ source.take copied ++ destination.drop (received.length + copied),
    ?_, ?_, ?_⟩
  · simp only [FrameDecoder.copyBytes, sizeSub_of_le _ _ within, held, ← fitting]
  · rw [List.length_append, List.length_append, taken, List.length_drop]
    omega
  · exact List.take_left' (by rw [List.length_append, taken])

/-- A resized buffer has the new length. -/
theorem resize_length (size : Nat) : (FrameDecoder.resize source size).length = size := by
  rw [FrameDecoder.resize, List.length_append, List.length_take, List.length_replicate]
  omega

end Copying

/-- A decoder that is reading the payload of a sound header, possibly with every
byte already present. -/
def ReadingPayload (limit : UInt32) (decoder : FrameDecoder) (header : FrameHeader)
    (received : Buffer) : Prop :=
  decoder.maxPayloadSize = limit ∧ decoder.headerBytes.length = frameHeaderSize ∧
    decoder.error = none ∧ decoder.header = some header ∧
    decoder.payload.length = header.payloadSize.toNat ∧
    decoder.payloadBytesSize = received.length ∧
    received.length ≤ header.payloadSize.toNat ∧
    decoder.payload.take received.length = received

section Iteration

variable (limit : UInt32) (decoder : FrameDecoder)

/-- Too few bytes for the payload: all of them are stored. -/
theorem readPayload_short (header : FrameHeader) (received bytes : Buffer)
    (reading : ReadingPayload limit decoder header received)
    (short : received.length + bytes.length < header.payloadSize.toNat) :
    ∃ after, decoder.readPayload bytes = (after, [], []) ∧
      Represents limit after (.inPayload header (received ++ bytes)) := by
  obtain ⟨limited, array, error, started, size, position, within, held⟩ := reading
  obtain ⟨updated, copied, length, contents⟩ := copyBytes_exact bytes decoder.payload received
    decoder.payloadBytesSize bytes.length position (size ▸ within) held (by omega)
  have unfinished : ¬decoder.payloadBytesSize + bytes.length = updated.length := by omega
  refine ⟨{ decoder with
      payload := updated
      payloadBytesSize := decoder.payloadBytesSize + bytes.length }, ?_, ?_⟩
  · simp only [FrameDecoder.readPayload, copied, if_neg unfinished, List.drop_length]
  · refine ⟨limited, array, error, started, length.trans size, ?_, ?_, ?_⟩
    · simp [position]
    · simpa using short
    · simpa using contents

/-- Enough bytes for the payload: the frame is emitted and its members are
cleared. -/
theorem readPayload_full (header : FrameHeader) (received bytes : Buffer) (missing : Nat)
    (reading : ReadingPayload limit decoder header received)
    (exactly : received.length + missing = header.payloadSize.toNat)
    (enough : missing ≤ bytes.length) :
    ∃ after, decoder.readPayload bytes = (after, bytes.drop missing,
        [{ header := header, payload := received ++ bytes.take missing }]) ∧
      Represents limit after (.inHeader []) := by
  obtain ⟨limited, array, error, started, size, position, within, held⟩ := reading
  obtain ⟨updated, copied, length, contents⟩ := copyBytes_exact bytes decoder.payload received
    decoder.payloadBytesSize missing position (size ▸ within) held (by omega)
  have finished : decoder.payloadBytesSize + missing = updated.length := by omega
  have whole : updated = received ++ bytes.take missing := by
    rw [← contents, ← position, finished, List.take_length]
  refine ⟨{ decoder with header := none, headerBytesSize := 0, payload := [], payloadBytesSize := 0 },
    ?_, ?_⟩
  · simp only [FrameDecoder.readPayload, copied, if_pos finished, started, Option.getD_some]
    rw [whole]
  · exact ⟨limited, array, error, rfl, rfl, rfl, by decide, rfl⟩

/-- Too few bytes for the header: all of them are stored and the loop is left. -/
theorem readHeader_short (received bytes : Buffer)
    (represented : Represents limit decoder (.inHeader received))
    (short : received.length + bytes.length < frameHeaderSize) :
    ∃ after, decoder.readHeader bytes = (after, none) ∧
      Represents limit after (.inHeader (received ++ bytes)) := by
  obtain ⟨limited, array, error, unstarted, payload, position, within, held⟩ := represented
  obtain ⟨updated, copied, length, contents⟩ := copyBytes_exact bytes decoder.headerBytes received
    decoder.headerBytesSize bytes.length position (by omega) held (by omega)
  have unfinished : decoder.headerBytesSize + bytes.length < frameHeaderSize := by omega
  refine ⟨{ decoder with
      headerBytes := updated
      headerBytesSize := decoder.headerBytesSize + bytes.length }, ?_, ?_⟩
  · simp only [FrameDecoder.readHeader, unstarted, Option.isSome_none, Bool.false_eq_true, if_false,
      copied, if_pos unfinished]
  · refine ⟨limited, length.trans array, error, unstarted, payload, ?_, ?_, ?_⟩
    · simp [position]
    · simpa using short
    · simpa using contents

/-- Enough bytes for the header: it is refused with its first failing check, or
the decoder goes on to the payload with the remaining bytes. -/
theorem readHeader_full (received bytes : Buffer) (header : FrameHeader) (missing : Nat)
    (represented : Represents limit decoder (.inHeader received))
    (exactly : received.length + missing = frameHeaderSize) (enough : missing ≤ bytes.length)
    (decoded : decodeFrameHeader (received ++ bytes.take missing) = some header) :
    (∀ failure, firstFailing limit header = some failure →
      ∃ after, decoder.readHeader bytes = (after, none) ∧
        Represents limit after (.malformed failure)) ∧
    (firstFailing limit header = none →
      ∃ after, decoder.readHeader bytes = (after, some (bytes.drop missing)) ∧
        ReadingPayload limit after header []) := by
  obtain ⟨limited, array, error, unstarted, payload, position, within, held⟩ := represented
  obtain ⟨updated, copied, length, contents⟩ := copyBytes_exact bytes decoder.headerBytes received
    decoder.headerBytesSize missing position (by omega) held (by omega)
  have finished : ¬decoder.headerBytesSize + missing < frameHeaderSize := by omega
  have whole : updated = received ++ bytes.take missing := by
    rw [← contents, List.take_of_length_le (by omega)]
  have decodedArray : decodeFrameHeader updated = some header := whole ▸ decoded
  constructor
  · intro failure failing
    have verdict : validateFrame { header := header } limit = failure := by
      rw [validateFrame_eq, failing]
    have reported := firstFailing_ne_mismatch limit header failure failing
    refine ⟨{ decoder with
        headerBytes := updated
        headerBytesSize := decoder.headerBytesSize + missing
        error := some failure }, ?_, limited, length.trans array, rfl, ?_⟩
    · simp only [FrameDecoder.readHeader, unstarted, Option.isSome_none, Bool.false_eq_true,
        if_false, copied, if_neg finished, FrameDecoder.startFrame, decodedArray, limited,
        verdict, reported, ne_eq, not_false_eq_true, and_self, if_true, Option.isSome_some]
    · have positive : 0 < frameHeaderSize := by decide
      simp only
      omega
  · intro sound
    have verdict : ¬(validateFrame { header := header } limit ≠ .none ∧
        validateFrame { header := header } limit ≠ .payloadLengthMismatch) := by
      rw [validateFrame_eq, sound]
      simp only
      split <;> simp
    refine ⟨{ decoder with
        headerBytes := updated
        headerBytesSize := decoder.headerBytesSize + missing
        header := some header
        payload := FrameDecoder.resize decoder.payload header.payloadSize.toNat }, ?_, limited,
      length.trans array, error, rfl, resize_length _ _, payload, Nat.zero_le _, rfl⟩
    simp only [FrameDecoder.readHeader, unstarted, Option.isSome_none, Bool.false_eq_true,
      if_false, copied, if_neg finished, FrameDecoder.startFrame, decodedArray, limited,
      if_neg verdict, error]

/-- The payload part of an iteration consumes an initial part of its input just
as `Progress` would, and something of it unless the frame was complete already. -/
theorem readPayload_refines (header : FrameHeader) (received bytes : Buffer)
    (reading : ReadingPayload limit decoder header received) :
    ∃ after rest found consumed, decoder.readPayload bytes = (after, rest, found) ∧
      bytes = consumed ++ rest ∧
      (received.length < header.payloadSize.toNat →
        Represents limit after
          (Transducer.feed (Progress.step limit) (.inPayload header received) consumed).1 ∧
        found = (Transducer.feed (Progress.step limit) (.inPayload header received) consumed).2 ∧
        (bytes ≠ [] → consumed ≠ [])) ∧
      (received.length = header.payloadSize.toNat →
        Represents limit after (.inHeader []) ∧ consumed = [] ∧
          found = [{ header := header, payload := received }]) := by
  by_cases short : received.length + bytes.length < header.payloadSize.toNat
  · obtain ⟨after, computed, represented⟩ :=
      readPayload_short limit decoder header received bytes reading short
    refine ⟨after, [], [], bytes, computed, (List.append_nil bytes).symm, ?_, ?_⟩
    · intro _
      rw [feed_payload_short limit header received bytes (by simpa using short)]
      exact ⟨represented, rfl, id⟩
    · intro complete
      omega
  · have within : received.length ≤ header.payloadSize.toNat := reading.2.2.2.2.2.2.1
    obtain ⟨missing, exactly⟩ := Nat.exists_eq_add_of_le within
    have enough : missing ≤ bytes.length := by omega
    obtain ⟨after, computed, represented⟩ :=
      readPayload_full limit decoder header received bytes missing reading exactly.symm enough
    refine ⟨after, bytes.drop missing, _, bytes.take missing, computed,
      (List.take_append_drop missing bytes).symm, ?_, ?_⟩
    · intro partly
      have taken : (bytes.take missing).length = missing := by simp [enough]
      rw [feed_payload_full limit header received (bytes.take missing) partly
        (by rw [List.length_append, taken, exactly])]
      refine ⟨represented, rfl, ?_⟩
      intro _ nothing
      rw [nothing, List.length_nil] at taken
      omega
    · intro complete
      have nothing : missing = 0 := by omega
      subst nothing
      exact ⟨represented, rfl, by simp⟩

/-- The payload part of the iteration that accepts a header: a frame without a payload is
complete at once. -/
theorem readPayload_accepted (header : FrameHeader) (bytes : Buffer)
    (sound : firstFailing limit header = none)
    (reading : ReadingPayload limit decoder header []) :
    ∃ after rest found consumed, decoder.readPayload bytes = (after, rest, found) ∧
      bytes = consumed ++ rest ∧
      Represents limit after (Transducer.feed (Progress.step limit)
        (Progress.accept limit header).1 consumed).1 ∧
      found = (Progress.accept limit header).2 ++ (Transducer.feed (Progress.step limit)
        (Progress.accept limit header).1 consumed).2 := by
  obtain ⟨after, rest, found, consumed, computed, split, partly, complete⟩ :=
    readPayload_refines limit decoder header [] bytes reading
  refine ⟨after, rest, found, consumed, computed, split, ?_⟩
  by_cases empty : header.payloadSize.toNat = 0
  · obtain ⟨next, nothing, output⟩ := complete (by simp [empty])
    simp [Progress.accept, sound, empty, nothing, Transducer.feed, output, next]
  · obtain ⟨next, output, -⟩ := partly (by simp only [List.length_nil]; omega)
    have fed : Progress.accept limit header = (.inPayload header [], []) := by
      simp only [Progress.accept, sound, if_neg empty]
    rw [fed]
    exact ⟨next, by rw [List.nil_append]; exact output⟩

/-- The loop feeds its whole input to `Progress`. Induction on the fuel; an
iteration that does not leave the loop has consumed a byte, so fuel exceeding
the number of bytes never runs out. -/
theorem pushLoop_refines (fuel : Nat) (progress : Progress) (bytes : Buffer) (frames : List Frame)
    (represented : Represents limit decoder progress) (enough : bytes.length < fuel) :
    ∃ after, decoder.pushLoop fuel bytes frames =
        (after, frames ++ (Transducer.feed (Progress.step limit) progress bytes).2) ∧
      Represents limit after (Transducer.feed (Progress.step limit) progress bytes).1 := by
  induction fuel generalizing decoder progress bytes frames with
  | zero => omega
  | succ fuel inductionHypothesis =>
    rcases List.eq_nil_or_concat bytes with rfl | ⟨_, _, nonempty⟩
    · exact ⟨decoder, by simp [FrameDecoder.pushLoop, Transducer.feed],
        by simpa [Transducer.feed] using represented⟩
    have present : bytes ≠ [] := by simp [nonempty]
    have vacant : bytes.isEmpty = false := by simpa using present
    clear nonempty
    cases progress with
    | malformed failure =>
      have failed : decoder.error = some failure := represented.2.2.1
      rw [feed_malformed]
      exact ⟨decoder, by simp [FrameDecoder.pushLoop, failed], represented⟩
    | inPayload header received =>
      have healthy : decoder.error = none := represented.2.2.1
      obtain ⟨limited, array, error, started, size, position, within, held⟩ := represented
      have skipped : decoder.readHeader bytes = (decoder, some bytes) := by
        simp [FrameDecoder.readHeader, started]
      obtain ⟨after, rest, found, consumed, computed, split, refined, -⟩ :=
        readPayload_refines limit decoder header received bytes
          ⟨limited, array, error, started, size, position, Nat.le_of_lt within, held⟩
      obtain ⟨next, output, progressed⟩ := refined within
      have shorter : rest.length < fuel := by
        have some := List.length_pos_of_ne_nil (progressed present)
        have lengths := congrArg List.length split
        rw [List.length_append] at lengths
        omega
      obtain ⟨final, looped, finalRepresented⟩ :=
        inductionHypothesis after _ rest (frames ++ found) next shorter
      refine ⟨final, ?_, ?_⟩
      · simp only [FrameDecoder.pushLoop, vacant, healthy, Option.isSome_none, Bool.or_self,
          Bool.false_eq_true, if_false, skipped, computed, looped]
        rw [split, Transducer.feed_append, output, List.append_assoc]
      · rw [split, Transducer.feed_append]
        exact finalRepresented
    | inHeader received =>
      have healthy : decoder.error = none := represented.2.2.1
      have within : received.length < frameHeaderSize := represented.2.2.2.2.2.2.1
      by_cases short : received.length + bytes.length < frameHeaderSize
      · obtain ⟨after, computed, next⟩ :=
          readHeader_short limit decoder received bytes represented short
        rw [feed_header_short limit received bytes (by simpa using short)]
        exact ⟨after, by simp [FrameDecoder.pushLoop, vacant, healthy, computed], next⟩
      obtain ⟨missing, exactly⟩ := Nat.exists_eq_add_of_le (Nat.le_of_lt within)
      have available : missing ≤ bytes.length := by omega
      have front : (received ++ bytes.take missing).length = frameHeaderSize := by
        simp [available, exactly]
      obtain ⟨header, decoded⟩ : ∃ header,
          decodeFrameHeader (received ++ bytes.take missing) = some header := by
        simp [decodeFrameHeader, front]
      obtain ⟨refused, accepted⟩ := readHeader_full limit decoder received bytes header missing
        represented exactly.symm available decoded
      rw [feed_header_past limit received bytes header missing within front decoded]
      cases failing : firstFailing limit header with
      | some failure =>
        obtain ⟨after, computed, next⟩ := refused failure failing
        have fed : Progress.accept limit header = (.malformed failure, []) := by
          simp [Progress.accept, failing]
        rw [fed, feed_malformed]
        exact ⟨after, by simp [FrameDecoder.pushLoop, vacant, healthy, computed], next⟩
      | none =>
        obtain ⟨started, computed, reading⟩ := accepted failing
        obtain ⟨after, rest, found, consumed, paid, pieces, next, output⟩ :=
          readPayload_accepted limit started header (bytes.drop missing) failing reading
        have shorter : rest.length < fuel := by
          have lengths := congrArg List.length pieces
          rw [List.length_append, List.length_drop] at lengths
          omega
        obtain ⟨final, looped, finalRepresented⟩ :=
          inductionHypothesis after _ rest (frames ++ found) next shorter
        refine ⟨final, ?_, ?_⟩
        · simp only [FrameDecoder.pushLoop, vacant, healthy, Option.isSome_none, Bool.or_self,
            Bool.false_eq_true, if_false, computed, paid, looped]
          rw [pieces, Transducer.feed_append, output]
          simp only [List.append_assoc]
        · rw [pieces, Transducer.feed_append]
          exact finalRepresented

end Iteration

/-- What a word of bytes means to a decoder that has received nothing: the
progress it ends in and the frames it emits. -/
def meaning (limit : UInt32) (bytes : Buffer) : Progress × List Frame :=
  Transducer.feed (Progress.step limit) (.inHeader []) bytes

/-- A push feeds exactly its bytes. -/
theorem push_refines (limit : UInt32) (decoder : FrameDecoder) (progress : Progress)
    (bytes : Buffer) (represented : Represents limit decoder progress) :
    (decoder.push bytes).2 = (Transducer.feed (Progress.step limit) progress bytes).2 ∧
      Represents limit (decoder.push bytes).1
        (Transducer.feed (Progress.step limit) progress bytes).1 := by
  obtain ⟨after, looped, next⟩ := pushLoop_refines limit decoder (bytes.length + 1) progress bytes
    [] represented (Nat.lt_succ_self _)
  rw [FrameDecoder.push, looped]
  exact ⟨by simp, next⟩

/-- A newly constructed decoder has received nothing. -/
theorem fresh_represents (limit : UInt32) :
    Represents limit { maxPayloadSize := limit } (.inHeader []) :=
  ⟨rfl, by simp, rfl, rfl, rfl, rfl, by decide, rfl⟩

/-- A reset decoder has received nothing, whatever happened before. -/
theorem reset_represents (limit : UInt32) (decoder : FrameDecoder) (progress : Progress)
    (represented : Represents limit decoder progress) :
    Represents limit decoder.reset (.inHeader []) := by
  cases progress with
  | inHeader received => exact ⟨represented.1, represented.2.1, rfl, rfl, rfl, rfl, by decide, rfl⟩
  | inPayload header received =>
    exact ⟨represented.1, represented.2.1, rfl, rfl, rfl, rfl, by decide, rfl⟩
  | malformed failure => exact ⟨represented.1, represented.2.1, rfl, rfl, rfl, rfl, by decide, rfl⟩

/-- The calls that change a decoder. -/
inductive Call where
  | push (bytes : Buffer)
  | reset
deriving DecidableEq, Repr

/-- One call, with the frames returned since the last reset. -/
def perform (state : FrameDecoder × List Frame) : Call → FrameDecoder × List Frame
  | .push bytes => ((state.1.push bytes).1, state.2 ++ (state.1.push bytes).2)
  | .reset => (state.1.reset, [])

/-- The decoder and the frames returned since the last reset after a history of
calls on a decoder constructed with the limit. -/
def performAll (limit : UInt32) (history : List Call) : FrameDecoder × List Frame :=
  history.foldl perform ({ maxPayloadSize := limit }, [])

/-- The bytes pushed since the last reset, concatenated. -/
def bytesSinceReset (history : List Call) : Buffer :=
  history.foldl (fun bytes call =>
    match call with
    | .push more => bytes ++ more
    | .reset => []) []

/-- After any history the decoder is where the bytes since the last reset put
it, and has returned the frames they mean. -/
theorem performAll_refines (limit : UInt32) (history : List Call) :
    Represents limit (performAll limit history).1 (meaning limit (bytesSinceReset history)).1 ∧
      (performAll limit history).2 = (meaning limit (bytesSinceReset history)).2 := by
  induction history using List.reverseRecOn with
  | nil => exact ⟨fresh_represents limit, rfl⟩
  | append_singleton earlier call inductionHypothesis =>
    obtain ⟨represented, returned⟩ := inductionHypothesis
    have before : performAll limit (earlier ++ [call]) = perform (performAll limit earlier) call := by
      simp [performAll]
    cases call with
    | reset =>
      have bytes : bytesSinceReset (earlier ++ [.reset]) = [] := by simp [bytesSinceReset]
      rw [before, bytes]
      exact ⟨reset_represents limit _ _ represented, rfl⟩
    | push more =>
      have bytes : bytesSinceReset (earlier ++ [.push more]) = bytesSinceReset earlier ++ more := by
        simp [bytesSinceReset]
      obtain ⟨output, next⟩ := push_refines limit _ _ more represented
      rw [before, bytes, meaning, Transducer.feed_append]
      exact ⟨next, by rw [perform, returned, output]; rfl⟩

/-- Chunking independence: after any history of pushes and resets, the frames
returned since the last reset, the error and whether a frame is incomplete are a
function of the bytes pushed since that reset alone. Neither the cuts between
pushes nor anything before the reset can be observed. -/
theorem chunking_independence (limit : UInt32) :
    ∃ observed : Buffer → List Frame × Option FrameValidationError × Bool,
      ∀ history : List Call,
        ((performAll limit history).2, (performAll limit history).1.error,
          (performAll limit history).1.hasIncompleteFrame) =
            observed (bytesSinceReset history) := by
  refine ⟨fun bytes => ((meaning limit bytes).2, (meaning limit bytes).1.error,
    (meaning limit bytes).1.incomplete), ?_⟩
  intro history
  obtain ⟨represented, returned⟩ := performAll_refines limit history
  obtain ⟨error, incomplete⟩ := represents_observed limit _ _ represented
  rw [returned, error, incomplete]

/-- The encodings of a list of frames, one after the other. -/
def encodeFrames (frames : List Frame) : Buffer := frames.flatMap encodeFrame

/-- A request with two payload bytes and a response without payload. -/
def twoFrames : List Frame :=
  [{ header := { stream := ⟨1⟩, payloadSize := 2 }, payload := [7, 8] },
    { header := { type := .response, flags := .endOfStream, stream := ⟨1⟩ } }]

section Language

variable (limit : UInt32)

/-- The encoding of a valid frame is read as that frame and nothing else. -/
theorem feed_encoded_frame (frame : Frame) (valid : validateFrame frame limit = .none) :
    Transducer.feed (Progress.step limit) (.inHeader []) (encodeFrame frame) =
      (.inHeader [], [frame]) := by
  obtain ⟨sound, length⟩ := (valid_iff frame limit).mp valid
  have decoded : decodeFrameHeader ([] ++ encodeFrameHeader frame.header) = some frame.header := by
    simpa using decode_encoded_header frame.header []
  have accepted := feed_header_full limit [] (encodeFrameHeader frame.header) frame.header
    (by decide) (by simp) decoded
  rw [encodeFrame, Transducer.feed_append, accepted]
  by_cases empty : frame.header.payloadSize.toNat = 0
  · have nothing : frame.payload = [] := List.length_eq_zero_iff.mp (length.trans empty)
    rcases frame with ⟨header, payload⟩
    simp only at nothing
    subst nothing
    simp only [Progress.accept, sound, if_pos empty, Transducer.feed, List.append_nil]
  · have paid := feed_payload_full limit frame.header [] frame.payload
      (by rw [List.length_nil]; omega) (by simpa using length)
    simp only [Progress.accept, sound, if_neg empty, paid, List.nil_append]

/-- The encodings of valid frames are read as these frames. -/
theorem meaning_encoded (frames : List Frame)
    (valid : ∀ frame ∈ frames, validateFrame frame limit = .none) :
    meaning limit (encodeFrames frames) = (.inHeader [], frames) := by
  induction frames with
  | nil => rfl
  | cons frame rest inductionHypothesis =>
    have first : validateFrame frame limit = .none := valid frame List.mem_cons_self
    have others := inductionHypothesis fun other member => valid other (List.mem_cons_of_mem _ member)
    rw [meaning, encodeFrames, List.flatMap_cons, Transducer.feed_append,
      feed_encoded_frame limit frame first]
    rw [meaning, encodeFrames] at others
    rw [others]
    rfl

/-- The bytes a progress has received since the last complete frame. A malformed
header may be followed by anything. -/
def Residue : Progress → Buffer → Prop
  | .inHeader received, bytes => bytes = received ∧ received.length < frameHeaderSize
  | .inPayload header received, bytes =>
    bytes = encodeFrameHeader header ++ received ∧ firstFailing limit header = none ∧
      received.length < header.payloadSize.toNat
  | .malformed error, bytes =>
    ∃ header rest, bytes = encodeFrameHeader header ++ rest ∧
      firstFailing limit header = some error

/-- Accepting a complete header leaves its own encoding behind, as a frame
without payload or as residue. -/
theorem accept_residue (header : FrameHeader) :
    (∀ frame ∈ (Progress.accept limit header).2, validateFrame frame limit = .none) ∧
      ∃ residue, encodeFrameHeader header =
          encodeFrames (Progress.accept limit header).2 ++ residue ∧
        Residue limit (Progress.accept limit header).1 residue := by
  cases failing : firstFailing limit header with
  | some failure =>
    refine ⟨by simp [Progress.accept, failing], encodeFrameHeader header, ?_, ?_⟩
    · simp [Progress.accept, failing, encodeFrames]
    · simp only [Progress.accept, failing]
      exact ⟨header, [], by simp, failing⟩
  | none =>
    by_cases empty : header.payloadSize.toNat = 0
    · have fed : Progress.accept limit header = (.inHeader [], [{ header := header }]) := by
        simp only [Progress.accept, failing, if_pos empty]
      rw [fed]
      refine ⟨?_, [], ?_, rfl, by decide⟩
      · intro frame member
        obtain rfl := List.mem_singleton.mp member
        exact (valid_iff _ limit).mpr ⟨failing, empty.symm⟩
      · simp [encodeFrames, encodeFrame]
    · have fed : Progress.accept limit header = (.inPayload header [], []) := by
        simp only [Progress.accept, failing, if_neg empty]
      rw [fed]
      refine ⟨by simp, encodeFrameHeader header, by simp [encodeFrames], by simp, failing, ?_⟩
      rw [List.length_nil]
      omega

/-- One byte extends the residue, or turns it into frames and a new residue. -/
theorem step_residue (progress : Progress) (residue : Buffer) (byte : UInt8)
    (held : Residue limit progress residue) :
    (∀ frame ∈ (Progress.step limit progress byte).2, validateFrame frame limit = .none) ∧
      ∃ next, residue ++ [byte] = encodeFrames (Progress.step limit progress byte).2 ++ next ∧
        Residue limit (Progress.step limit progress byte).1 next := by
  cases progress with
  | malformed failure =>
    obtain ⟨header, rest, rfl, failing⟩ := held
    refine ⟨by simp [Progress.step], encodeFrameHeader header ++ (rest ++ [byte]), ?_, ?_⟩
    · simp [Progress.step, encodeFrames]
    · exact ⟨header, rest ++ [byte], rfl, failing⟩
  | inHeader received =>
    obtain ⟨rfl, short⟩ := held
    cases decoded : decodeFrameHeader (residue ++ [byte]) with
    | none =>
      have still : (residue ++ [byte]).length < frameHeaderSize := by
        unfold decodeFrameHeader at decoded
        split at decoded
        · assumption
        · simp at decoded
      simp only [Progress.step, decoded]
      exact ⟨by simp, residue ++ [byte], by simp [encodeFrames], rfl, still⟩
    | some header =>
      have exactly : encodeFrameHeader header = residue ++ [byte] := by
        rw [encode_decoded_header _ header decoded, List.take_of_length_le]
        rw [List.length_append, List.length_singleton]
        exact short
      simp only [Progress.step, decoded]
      rw [← exactly]
      exact accept_residue limit header
  | inPayload header received =>
    obtain ⟨rfl, sound, short⟩ := held
    by_cases still : (received ++ [byte]).length < header.payloadSize.toNat
    · simp only [Progress.step, if_pos still]
      exact ⟨by simp, encodeFrameHeader header ++ (received ++ [byte]),
        by simp [encodeFrames], rfl, sound, still⟩
    · simp only [Progress.step, if_neg still]
      have length : (received ++ [byte]).length = header.payloadSize.toNat := by
        rw [List.length_append, List.length_singleton] at still ⊢
        omega
      refine ⟨?_, [], ?_, rfl, by decide⟩
      · intro frame member
        obtain rfl := List.mem_singleton.mp member
        exact (valid_iff _ limit).mpr ⟨sound, length⟩
      · simp [encodeFrames, encodeFrame]

/-- Every word is the encodings of the frames it means, all of them valid,
followed by the residue of its progress. Induction on the word from its end. -/
theorem meaning_residue (bytes : Buffer) :
    (∀ frame ∈ (meaning limit bytes).2, validateFrame frame limit = .none) ∧
      ∃ residue, bytes = encodeFrames (meaning limit bytes).2 ++ residue ∧
        Residue limit (meaning limit bytes).1 residue := by
  induction bytes using List.reverseRecOn with
  | nil => exact ⟨by simp [meaning, Transducer.feed], [], rfl, rfl, by decide⟩
  | append_singleton front last inductionHypothesis =>
    obtain ⟨valid, residue, split, held⟩ := inductionHypothesis
    obtain ⟨newValid, next, newSplit, newHeld⟩ := step_residue limit _ residue last held
    have fed : meaning limit (front ++ [last]) =
        ((Progress.step limit (meaning limit front).1 last).1,
          (meaning limit front).2 ++ (Progress.step limit (meaning limit front).1 last).2) :=
      Transducer.feed_concat _ _ front last
    rw [fed]
    refine ⟨?_, next, ?_, newHeld⟩
    · intro frame member
      rcases List.mem_append.mp member with earlier | new
      · exact valid frame earlier
      · exact newValid frame new
    · calc front ++ [last]
          = encodeFrames (meaning limit front).2 ++ (residue ++ [last]) := by
            rw [← List.append_assoc, ← split]
        _ = _ := by rw [newSplit]; simp [encodeFrames]

/-- Pushing the chunks of a word into a fresh decoder does what the word means. -/
theorem pushed_chunks (chunks : List Buffer) :
    (performAll limit (chunks.map .push)).2 = (meaning limit chunks.flatten).2 ∧
      (performAll limit (chunks.map .push)).1.error = (meaning limit chunks.flatten).1.error ∧
      (performAll limit (chunks.map .push)).1.hasIncompleteFrame =
        (meaning limit chunks.flatten).1.incomplete := by
  have bytes : bytesSinceReset (chunks.map .push) = chunks.flatten := by
    induction chunks using List.reverseRecOn with
    | nil => rfl
    | append_singleton front last inductionHypothesis =>
      rw [List.map_append, bytesSinceReset, List.foldl_append]
      rw [bytesSinceReset] at inductionHypothesis
      rw [inductionHypothesis]
      simp
  obtain ⟨represented, returned⟩ := performAll_refines limit (chunks.map .push)
  obtain ⟨error, incomplete⟩ := represents_observed limit _ _ represented
  rw [bytes] at returned error incomplete
  exact ⟨returned, error, incomplete⟩

/-- No initial part of encoded valid frames is malformed: a malformed header is
never left again. -/
theorem meaning_initial_sound (frames : List Frame)
    (valid : ∀ frame ∈ frames, validateFrame frame limit = .none) (cut : Buffer)
    (initial : cut <+: encodeFrames frames) : (meaning limit cut).1.error = none := by
  obtain ⟨more, whole⟩ := initial
  have complete := meaning_encoded limit frames valid
  rw [← whole, meaning, Transducer.feed_append] at complete
  cases reached : (meaning limit cut).1 with
  | inHeader received => rfl
  | inPayload header received => rfl
  | malformed failure =>
    rw [meaning] at reached
    have stuck := feed_malformed limit failure more
    simp [reached, stuck] at complete

/-- Output on an initial part of encoded valid frames: exactly the frames whose
encodings lie inside it. -/
theorem meaning_initial_part (frames : List Frame)
    (valid : ∀ frame ∈ frames, validateFrame frame limit = .none) (cut : Buffer)
    (initial : cut <+: encodeFrames frames) :
    ∃ count, count ≤ frames.length ∧ (meaning limit cut).2 = frames.take count ∧
      ∀ index ≤ frames.length,
        (encodeFrames (frames.take index)).length ≤ cut.length ↔ index ≤ count := by
  obtain ⟨more, whole⟩ := initial
  have output : (meaning limit cut).2 <+: frames := by
    have mono := Transducer.feed_output_mono (Progress.step limit) (.inHeader []) cut more
    rw [whole] at mono
    have all := meaning_encoded limit frames valid
    rw [meaning] at all
    rwa [all] at mono
  obtain ⟨-, residue, split, -⟩ := meaning_residue limit cut
  have taken : (meaning limit cut).2 = frames.take (meaning limit cut).2.length :=
    List.prefix_iff_eq_take.mp output
  refine ⟨(meaning limit cut).2.length, output.length_le, taken, ?_⟩
  intro index inside
  have inWhole : encodeFrames (frames.take index) <+: encodeFrames frames := by
    refine ⟨encodeFrames (frames.drop index), ?_⟩
    rw [encodeFrames, encodeFrames, ← List.flatMap_append, List.take_append_drop]
    rfl
  constructor
  · intro fits
    have inCut : encodeFrames (frames.take index) <+: cut :=
      List.prefix_of_prefix_length_le inWhole ⟨more, whole⟩ fits
    obtain ⟨others, rest⟩ := inCut
    have mono := Transducer.feed_output_mono (Progress.step limit) (.inHeader [])
      (encodeFrames (frames.take index)) others
    have emitted := meaning_encoded limit (frames.take index)
      fun frame member => valid frame (List.mem_of_mem_take member)
    rw [meaning] at emitted
    rw [rest, emitted] at mono
    have bound := mono.length_le
    rw [List.length_take, Nat.min_eq_left inside] at bound
    exact bound
  · intro below
    have nested : frames.take index <+: (meaning limit cut).2 := by
      rw [taken]
      exact List.take_prefix_take_left below
    obtain ⟨others, rest⟩ := nested
    have longer := congrArg List.length split
    rw [← rest, encodeFrames, List.flatMap_append, List.length_append, List.length_append] at longer
    rw [encodeFrames]
    omega

/-- Decoding undoes encoding for whole streams, however they are cut. After the
last byte the decoder has returned exactly the frames, without error and without
an incomplete frame; after any strict initial part it has returned exactly those
whose encodings lie inside that part. -/
theorem decoding_undoes_encoding (frames : List Frame)
    (valid : ∀ frame ∈ frames, validateFrame frame limit = .none) :
    (∀ chunks : List Buffer, chunks.flatten = encodeFrames frames →
      (performAll limit (chunks.map .push)).2 = frames ∧
        (performAll limit (chunks.map .push)).1.error = none ∧
        (performAll limit (chunks.map .push)).1.hasIncompleteFrame = false) ∧
    (∀ chunks : List Buffer, chunks.flatten <+: encodeFrames frames →
      chunks.flatten ≠ encodeFrames frames →
      ∃ count, count ≤ frames.length ∧
        (performAll limit (chunks.map .push)).2 = frames.take count ∧
        ∀ index ≤ frames.length,
          (encodeFrames (frames.take index)).length ≤ chunks.flatten.length ↔ index ≤ count) := by
  constructor
  · intro chunks whole
    obtain ⟨returned, error, incomplete⟩ := pushed_chunks limit chunks
    rw [whole, meaning_encoded limit frames valid] at returned error incomplete
    exact ⟨returned, error, incomplete⟩
  · intro chunks initial _
    obtain ⟨count, bound, output, inside⟩ :=
      meaning_initial_part limit frames valid chunks.flatten initial
    exact ⟨count, bound, (pushed_chunks limit chunks).1.trans output, inside⟩

end Language

/-- Two frames, the second without payload, cut inside a header. -/
theorem decoding_undoes_encoding_two :
    (performAll 2 ([(encodeFrames twoFrames).take 25, (encodeFrames twoFrames).drop 25].map
      .push)).2 = twoFrames :=
  ((decoding_undoes_encoding 2 twoFrames (by decide)).1
    [(encodeFrames twoFrames).take 25, (encodeFrames twoFrames).drop 25] (by decide)).1

/-- A decoder in its error state returns nothing and does not change. -/
theorem push_after_error (decoder : FrameDecoder) (failure : FrameValidationError)
    (failed : decoder.error = some failure) (bytes : Buffer) :
    decoder.push bytes = (decoder, []) := by
  simp [FrameDecoder.push, FrameDecoder.pushLoop, failed]

/-- The decoder accepts exactly the frame grammar. For any bytes, however cut,
every returned frame is valid and the encodings of the returned frames begin the
input. What follows them is too short for a header, or a sound header with too
few payload bytes, both without error, or begins with a header whose first
failing check is the error. Once set, the error and the frames stay. -/
theorem decoder_accepts_grammar (limit : UInt32) (chunks : List Buffer) :
    let decoder := (performAll limit (chunks.map .push)).1
    let returned := (performAll limit (chunks.map .push)).2
    (∀ frame ∈ returned, validateFrame frame limit = .none) ∧
    (∃ rest, chunks.flatten = encodeFrames returned ++ rest ∧
      ((rest.length < frameHeaderSize ∧ decoder.error = none) ∨
        (∃ header, decodeFrameHeader rest = some header ∧ firstFailing limit header = none ∧
          rest.length < frameHeaderSize + header.payloadSize.toNat ∧ decoder.error = none) ∨
        (∃ header failure, decodeFrameHeader rest = some header ∧
          firstFailing limit header = some failure ∧ decoder.error = some failure ∧
          failure ≠ .payloadLengthMismatch))) ∧
    (∀ failure, decoder.error = some failure → ∀ later : List Buffer,
      (later.map Call.push).foldl perform (decoder, returned) = (decoder, returned)) := by
  intro decoder returned
  obtain ⟨output, error, -⟩ := pushed_chunks limit chunks
  obtain ⟨valid, rest, split, held⟩ := meaning_residue limit chunks.flatten
  rw [← output] at valid split
  refine ⟨valid, ⟨rest, split, ?_⟩, ?_⟩
  · cases reached : (meaning limit chunks.flatten).1 with
    | inHeader received =>
      rw [reached] at held error
      obtain ⟨rfl, short⟩ := held
      exact Or.inl ⟨short, error⟩
    | inPayload header received =>
      rw [reached] at held error
      obtain ⟨rfl, sound, short⟩ := held
      refine Or.inr (Or.inl ⟨header, decode_encoded_header header received, sound, ?_, error⟩)
      rw [List.length_append, encodeFrameHeader_length]
      omega
    | malformed failure =>
      rw [reached] at held error
      obtain ⟨header, tail, rfl, failing⟩ := held
      exact Or.inr (Or.inr ⟨header, failure, decode_encoded_header header tail, failing, error,
        (firstFailing_ne_mismatch limit header failure failing).2⟩)
  · intro failure failed later
    induction later with
    | nil => rfl
    | cons bytes others inductionHypothesis =>
      have unchanged := push_after_error decoder failure failed bytes
      rw [List.map_cons, List.foldl_cons, perform, unchanged, List.append_nil]
      exact inductionHypothesis

end Rillnet.FrameGrammar
