import Rillnet.FrameGrammar
import Rillnet.Library.Loop

/-!
# The loop of `push`

`Sound` is what the decoder's members satisfy between calls: how far the header
array and the payload buffer are filled, and that a header is set only while its
payload is incomplete. `PushLoop` is the loop as the source has it, without a bound
on its rounds. One round keeps the members sound and consumes a byte, so the loop
ends on every input; the positions handed to `copy_bytes` stay inside their
destinations, and `start_frame` always finds a complete header.
-/

namespace Rillnet

namespace FrameDecoder

/-- The members between two calls, for a decoder constructed with the limit. -/
structure Sound (limit : UInt32) (decoder : FrameDecoder) : Prop where
  limited : decoder.maxPayloadSize = limit
  array : decoder.headerBytes.length = frameHeaderSize
  headerWithin : decoder.headerBytesSize ≤ frameHeaderSize
  started : ∀ header, decoder.header = some header →
    decoder.error = none ∧ decoder.payload.length = header.payloadSize.toNat ∧
      header.payloadSize.toNat ≤ limit.toNat ∧ decoder.payloadBytesSize < decoder.payload.length
  unstarted : decoder.header = none →
    decoder.payload = [] ∧ decoder.payloadBytesSize = 0 ∧
      (decoder.error = none → decoder.headerBytesSize < frameHeaderSize)

/-- At no time more payload bytes are buffered than the limit allows. -/
theorem Sound.buffered {limit : UInt32} {decoder : FrameDecoder} (sound : decoder.Sound limit) :
    decoder.payload.length ≤ limit.toNat := by
  cases header : decoder.header with
  | none =>
    rw [(sound.unstarted header).1]
    exact Nat.zero_le _
  | some declared =>
    obtain ⟨-, size, within, -⟩ := sound.started declared header
    rw [size]
    exact within

theorem fresh_sound (limit : UInt32) : ({ maxPayloadSize := limit } : FrameDecoder).Sound limit where
  limited := rfl
  array := by simp
  headerWithin := Nat.zero_le _
  started := by simp
  unstarted := fun _ => ⟨rfl, rfl, fun _ => Nat.zero_lt_succ _⟩

theorem Sound.reset {limit : UInt32} {decoder : FrameDecoder} (sound : decoder.Sound limit) :
    decoder.reset.Sound limit where
  limited := sound.limited
  array := sound.array
  headerWithin := Nat.zero_le _
  started := by simp [FrameDecoder.reset]
  unstarted := fun _ => ⟨rfl, rfl, fun _ => Nat.zero_lt_succ _⟩

/-- A copy that starts inside its destination fills what is left of it and does not
change its length. -/
theorem copyBytes_within (source destination : Buffer) (position : Nat)
    (within : position ≤ destination.length) :
    ∃ updated, copyBytes source destination position =
        (updated, min source.length (destination.length - position)) ∧
      updated.length = destination.length := by
  have taken : (destination.take position).length = position := by simp [within]
  obtain ⟨updated, computed, length, -⟩ := FrameGrammar.copyBytes_exact source destination
    (destination.take position) position (min source.length (destination.length - position))
    taken.symm (taken.symm ▸ within) (by rw [taken]) (by rw [taken])
  exact ⟨updated, computed, length⟩

/-- A complete header array always holds a header. It is refused with an error, or it
declares a payload within the limit and the buffer is given that size. -/
theorem startFrame_outcome (decoder : FrameDecoder)
    (array : decoder.headerBytes.length = frameHeaderSize) :
    ∃ header, decodeFrameHeader decoder.headerBytes = some header ∧
      ((∃ failure, decoder.startFrame = { decoder with error := some failure }) ∨
        (header.payloadSize.toNat ≤ decoder.maxPayloadSize.toNat ∧
          decoder.startFrame = { decoder with
            header := some header
            payload := resize decoder.payload header.payloadSize.toNat })) := by
  obtain ⟨header, decoded⟩ : ∃ header, decodeFrameHeader decoder.headerBytes = some header := by
    simp [decodeFrameHeader, array]
  refine ⟨header, decoded, ?_⟩
  by_cases refused : validateFrame { header := header } decoder.maxPayloadSize ≠ .none ∧
      validateFrame { header := header } decoder.maxPayloadSize ≠ .payloadLengthMismatch
  · left
    refine ⟨validateFrame { header := header } decoder.maxPayloadSize, ?_⟩
    simp only [startFrame, decoded, if_pos refused]
  · right
    refine ⟨?_, by simp only [startFrame, decoded, if_neg refused]⟩
    cases failing : FrameGrammar.firstFailing decoder.maxPayloadSize header with
    | some failure =>
      have verdict : validateFrame { header := header } decoder.maxPayloadSize = failure := by
        rw [FrameGrammar.validateFrame_eq, failing]
      rw [verdict] at refused
      exact absurd (FrameGrammar.firstFailing_ne_mismatch _ header failure failing) refused
    | none =>
      have passed := failing
      simp only [FrameGrammar.firstFailing, Option.map_eq_none_iff, List.find?_eq_none] at passed
      have small := passed
        (.payloadTooLarge, fun header => decide (header.payloadSize ≤ decoder.maxPayloadSize))
        (by simp [FrameGrammar.headerChecks])
      exact UInt32.le_iff_toNat_le.mp (by simpa using small)

/-- Copying into the payload buffer completes the frame, or leaves the buffer
incomplete with every input byte used. -/
theorem readPayload_outcome (decoder : FrameDecoder) (bytes : Buffer)
    (within : decoder.payloadBytesSize ≤ decoder.payload.length) :
    ∃ copied, copied = min bytes.length (decoder.payload.length - decoder.payloadBytesSize) ∧
      ((∃ found, decoder.readPayload bytes =
          ({ decoder with header := none, headerBytesSize := 0, payload := [], payloadBytesSize := 0 },
            bytes.drop copied, found)) ∨
        (decoder.payloadBytesSize + copied < decoder.payload.length ∧
          ∃ updated, updated.length = decoder.payload.length ∧
            decoder.readPayload bytes =
              ({ decoder with
                payload := updated
                payloadBytesSize := decoder.payloadBytesSize + copied }, bytes.drop copied, []))) := by
  obtain ⟨updated, computed, length⟩ :=
    copyBytes_within bytes decoder.payload decoder.payloadBytesSize within
  refine ⟨_, rfl, ?_⟩
  by_cases complete : decoder.payloadBytesSize +
      min bytes.length (decoder.payload.length - decoder.payloadBytesSize) = updated.length
  · left
    refine ⟨[{ header := decoder.header.getD {}, payload := updated }], ?_⟩
    simp only [readPayload, computed, if_pos complete]
  · right
    refine ⟨by omega, updated, length, ?_⟩
    simp only [readPayload, computed, if_neg complete]

end FrameDecoder

/-- The loop between two of its tests: the decoder, the bytes not consumed yet, the
frames found, and whether a `break` has left it. -/
structure PushLoop where
  decoder : FrameDecoder
  bytes : Buffer
  frames : List Frame := []
  left : Bool := false

namespace PushLoop

/-- The test of the loop. -/
def running (loop : PushLoop) : Bool :=
  !loop.left && !loop.bytes.isEmpty && loop.decoder.error.isNone

/-- Copy into the header array. -/
def fillHeader (loop : PushLoop) : PushLoop :=
  let (headerBytes, copied) :=
    FrameDecoder.copyBytes loop.bytes loop.decoder.headerBytes loop.decoder.headerBytesSize
  { loop with
    decoder := { loop.decoder with
      headerBytes := headerBytes
      headerBytesSize := loop.decoder.headerBytesSize + copied }
    bytes := loop.bytes.drop copied }

def startFrame (loop : PushLoop) : PushLoop :=
  { loop with decoder := loop.decoder.startFrame }

/-- Copy into the payload buffer and emit the frame if it is complete. -/
def fillPayload (loop : PushLoop) : PushLoop :=
  let (decoder, rest, found) := loop.decoder.readPayload loop.bytes
  { loop with decoder := decoder, bytes := rest, frames := loop.frames ++ found }

/-- The body of the loop. -/
def iterate (loop : PushLoop) : PushLoop :=
  if loop.decoder.header.isSome then loop.fillPayload
  else if loop.fillHeader.decoder.headerBytesSize < frameHeaderSize then
    { loop.fillHeader with left := true }
  else if loop.fillHeader.startFrame.decoder.error.isSome then
    { loop.fillHeader.startFrame with left := true }
  else loop.fillHeader.startFrame.fillPayload

/-- One round. -/
def Round (before after : PushLoop) : Prop := before.running = true ∧ after = before.iterate

/-- Where the body calls `start_frame`, if it does. -/
def starting (loop : PushLoop) : Option PushLoop :=
  if loop.decoder.header.isSome ∨ loop.fillHeader.decoder.headerBytesSize < frameHeaderSize then none
  else some loop.fillHeader

/-- Where the body copies into the payload buffer, if it does. -/
def paying (loop : PushLoop) : Option PushLoop :=
  if loop.decoder.header.isSome then some loop
  else
    match loop.starting with
    | none => none
    | some filled => if filled.startFrame.decoder.error.isSome then none else some filled.startFrame

/-- The destinations and positions that the body hands to `copy_bytes`. -/
def copies (loop : PushLoop) : List (Buffer × Nat) :=
  (if loop.decoder.header.isSome then []
    else [(loop.decoder.headerBytes, loop.decoder.headerBytesSize)]) ++
  loop.paying.toList.map fun paying => (paying.decoder.payload, paying.decoder.payloadBytesSize)

section Rounds

variable {limit : UInt32} {loop : PushLoop}

/-- The loop goes on only with bytes left and without an error. -/
theorem running_only (running : loop.running = true) :
    0 < loop.bytes.length ∧ loop.decoder.error = none := by
  simp only [PushLoop.running, Bool.and_eq_true, Option.isNone_iff_eq_none] at running
  obtain ⟨⟨-, present⟩, healthy⟩ := running
  refine ⟨?_, healthy⟩
  rw [List.length_pos_iff]
  simpa using present

/-- Copying into the header array starts inside it and consumes a byte. The members
other than the array and its position stay. -/
theorem fillHeader_outcome (sound : loop.decoder.Sound limit) (unstarted : loop.decoder.header = none)
    (running : loop.running = true) :
    ∃ headerBytes headerBytesSize, headerBytes.length = frameHeaderSize ∧
      headerBytesSize ≤ frameHeaderSize ∧
      loop.fillHeader.decoder = { loop.decoder with
        headerBytes := headerBytes
        headerBytesSize := headerBytesSize } ∧
      loop.fillHeader.bytes.length < loop.bytes.length := by
  obtain ⟨present, healthy⟩ := running_only running
  have incomplete := (sound.unstarted unstarted).2.2 healthy
  obtain ⟨updated, computed, length⟩ := FrameDecoder.copyBytes_within loop.bytes
    loop.decoder.headerBytes loop.decoder.headerBytesSize (by rw [sound.array]; omega)
  have room := sound.array
  refine ⟨updated, loop.decoder.headerBytesSize + min loop.bytes.length
    (loop.decoder.headerBytes.length - loop.decoder.headerBytesSize), length.trans room, ?_, ?_, ?_⟩
  · omega
  · simp only [fillHeader, computed]
  · simp only [fillHeader, computed, List.length_drop]
    omega

/-- The members while the payload of an accepted header is read. Every byte may have
been present before the first of them was copied. -/
structure Paying (limit : UInt32) (decoder : FrameDecoder) (header : FrameHeader) : Prop where
  limited : decoder.maxPayloadSize = limit
  array : decoder.headerBytes.length = frameHeaderSize
  headerWithin : decoder.headerBytesSize ≤ frameHeaderSize
  healthy : decoder.error = none
  started : decoder.header = some header
  size : decoder.payload.length = header.payloadSize.toNat
  bound : header.payloadSize.toNat ≤ limit.toNat
  within : decoder.payloadBytesSize ≤ decoder.payload.length

/-- Between two calls a header that is set has an incomplete payload. -/
theorem paying_of_started (sound : loop.decoder.Sound limit) {header : FrameHeader}
    (started : loop.decoder.header = some header) : Paying limit loop.decoder header := by
  obtain ⟨healthy, size, bound, incomplete⟩ := sound.started header started
  exact ⟨sound.limited, sound.array, sound.headerWithin, healthy, started, size, bound,
    Nat.le_of_lt incomplete⟩

/-- The payload part of the body leaves sound members and never gives bytes back. It
consumes one if the payload was incomplete. -/
theorem Paying.fillPayload {header : FrameHeader} (paying : Paying limit loop.decoder header) :
    loop.fillPayload.decoder.Sound limit ∧ loop.fillPayload.bytes.length ≤ loop.bytes.length ∧
      (loop.decoder.payloadBytesSize < loop.decoder.payload.length → 0 < loop.bytes.length →
        loop.fillPayload.bytes.length < loop.bytes.length) := by
  obtain ⟨copied, amount, outcome⟩ := loop.decoder.readPayload_outcome loop.bytes paying.within
  have consumed : loop.fillPayload.bytes = loop.bytes.drop copied := by
    rcases outcome with ⟨found, computed⟩ | ⟨-, updated, -, computed⟩
    · simp only [PushLoop.fillPayload, computed]
    · simp only [PushLoop.fillPayload, computed]
  refine ⟨?_, ?_, ?_⟩
  · rcases outcome with ⟨found, computed⟩ | ⟨incomplete, updated, length, computed⟩
    · simp only [PushLoop.fillPayload, computed]
      exact ⟨paying.limited, paying.array, Nat.zero_le _, by simp,
        fun _ => ⟨rfl, rfl, fun _ => Nat.zero_lt_succ _⟩⟩
    · simp only [PushLoop.fillPayload, computed]
      refine ⟨paying.limited, paying.array, paying.headerWithin, ?_, by simp [paying.started]⟩
      intro declared same
      obtain rfl := Option.some.inj (paying.started.symm.trans same)
      refine ⟨paying.healthy, length.trans paying.size, paying.bound, ?_⟩
      rw [length]
      exact incomplete
  · rw [consumed, List.length_drop]
    omega
  · intro incomplete present
    rw [consumed, List.length_drop]
    omega

/-- A complete header is refused or starts its payload. -/
theorem startFrame_paying (sound : loop.decoder.Sound limit) (unstarted : loop.decoder.header = none)
    (running : loop.running = true) :
    (decodeFrameHeader loop.fillHeader.decoder.headerBytes).isSome = true ∧
      ((loop.fillHeader.startFrame.decoder.error.isSome = true ∧
          loop.fillHeader.startFrame.decoder.Sound limit) ∨
        (loop.fillHeader.startFrame.decoder.error.isSome = false ∧
          ∃ header, Paying limit loop.fillHeader.startFrame.decoder header)) := by
  obtain ⟨headerBytes, headerBytesSize, array, within, filled, -⟩ :=
    fillHeader_outcome sound unstarted running
  obtain ⟨vacant, position, -⟩ := sound.unstarted unstarted
  have healthy : loop.decoder.error = none := (running_only running).2
  obtain ⟨header, decoded, outcome⟩ := loop.fillHeader.decoder.startFrame_outcome (by rw [filled, array])
  refine ⟨by rw [decoded]; rfl, ?_⟩
  rcases outcome with ⟨failure, started⟩ | ⟨bound, started⟩
  · left
    simp only [PushLoop.startFrame, started]
    refine ⟨rfl, ?_⟩
    rw [filled]
    exact ⟨sound.limited, array, within, by simp [unstarted], fun _ => ⟨vacant, position, by simp⟩⟩
  · right
    simp only [PushLoop.startFrame, started]
    rw [filled] at bound ⊢
    refine ⟨by simp [healthy], header, sound.limited, array, within, healthy, rfl,
      FrameGrammar.resize_length _ _, ?_, ?_⟩
    · exact sound.limited ▸ bound
    · exact position ▸ Nat.zero_le _

/-- Where the payload is copied, the members are those of an accepted header. -/
theorem paying_members (sound : loop.decoder.Sound limit) (running : loop.running = true)
    {stage : PushLoop} (reached : loop.paying = some stage) :
    ∃ header, Paying limit stage.decoder header := by
  unfold PushLoop.paying at reached
  cases header : loop.decoder.header with
  | some declared =>
    simp only [header, Option.isSome_some, if_true, Option.some.injEq] at reached
    subst reached
    exact ⟨declared, paying_of_started sound header⟩
  | none =>
    simp only [header, Option.isSome_none, Bool.false_eq_true, if_false] at reached
    split at reached
    · simp at reached
    · rename_i filled complete
      have same : loop.fillHeader = filled := by
        unfold starting at complete
        split at complete
        · simp at complete
        · exact Option.some.inj complete
      subst same
      split at reached
      · simp at reached
      · rename_i accepted
        obtain rfl := Option.some.inj reached
        obtain ⟨-, ⟨refused, -⟩ | ⟨-, paying⟩⟩ := startFrame_paying sound header running
        · exact absurd refused accepted
        · exact paying

/-- One round leaves sound members and consumes a byte. -/
theorem iterate_sound (sound : loop.decoder.Sound limit) (running : loop.running = true) :
    loop.iterate.decoder.Sound limit ∧ loop.iterate.bytes.length < loop.bytes.length := by
  cases header : loop.decoder.header with
  | some declared =>
    obtain ⟨-, -, -, incomplete⟩ := sound.started declared header
    have body : loop.iterate = loop.fillPayload := by simp [iterate, header]
    obtain ⟨kept, -, consumes⟩ := (paying_of_started sound header).fillPayload
    rw [body]
    exact ⟨kept, consumes incomplete (running_only running).1⟩
  | none =>
    obtain ⟨headerBytes, headerBytesSize, array, within, filled, consumed⟩ :=
      fillHeader_outcome sound header running
    obtain ⟨vacant, position, -⟩ := sound.unstarted header
    rw [iterate, header, if_neg (by simp)]
    by_cases short : loop.fillHeader.decoder.headerBytesSize < frameHeaderSize
    · rw [if_pos short]
      refine ⟨?_, consumed⟩
      rw [filled] at short
      simp only [filled]
      exact ⟨sound.limited, array, within, by simp [header],
        fun _ => ⟨vacant, position, fun _ => short⟩⟩
    · rw [if_neg short]
      obtain ⟨-, ⟨refused, kept⟩ | ⟨accepted, declared, paying⟩⟩ :=
        startFrame_paying sound header running
      · rw [if_pos refused]
        exact ⟨kept, consumed⟩
      · rw [if_neg (by simp [accepted])]
        obtain ⟨kept, fewer, -⟩ := paying.fillPayload
        exact ⟨kept, Nat.lt_of_le_of_lt fewer consumed⟩

/-- The members stay sound through any number of rounds. -/
theorem rounds_sound (sound : loop.decoder.Sound limit) {count : Nat} {later : PushLoop}
    (rounds : Loop.Rounds Round loop count later) : later.decoder.Sound limit := by
  apply rounds.invariant (fun loop => loop.decoder.Sound limit) sound
  rintro before after kept ⟨running, rfl⟩
  exact (iterate_sound kept running).1

/-- There are at most as many rounds as bytes. -/
theorem rounds_bounded (sound : loop.decoder.Sound limit) {count : Nat} {later : PushLoop}
    (rounds : Loop.Rounds Round loop count later) : count + later.bytes.length ≤ loop.bytes.length := by
  apply rounds.bounded (fun loop => loop.decoder.Sound limit) (fun loop => loop.bytes.length) sound
  · rintro before after kept ⟨running, rfl⟩
    exact (iterate_sound kept running).1
  · rintro before after kept ⟨running, rfl⟩
    exact (iterate_sound kept running).2

/-- The header part of the model's loop, in the words of the loop of the source. -/
theorem readHeader_eq :
    loop.decoder.readHeader loop.bytes =
      if loop.decoder.header.isSome then (loop.decoder, some loop.bytes)
      else if loop.fillHeader.decoder.headerBytesSize < frameHeaderSize then
        (loop.fillHeader.decoder, none)
      else if loop.fillHeader.startFrame.decoder.error.isSome then
        (loop.fillHeader.startFrame.decoder, none)
      else (loop.fillHeader.startFrame.decoder, some loop.fillHeader.bytes) := rfl

/-- The header part finds no frame, and `start_frame` consumes nothing. -/
theorem fillHeader_frames : loop.fillHeader.frames = loop.frames ∧
    loop.fillHeader.startFrame.frames = loop.frames ∧ loop.fillHeader.startFrame.left = loop.left ∧
      loop.fillHeader.startFrame.bytes = loop.fillHeader.bytes :=
  ⟨rfl, rfl, rfl, rfl⟩

/-- The bounded loop of the model takes the same rounds, as long as its bound lasts. -/
theorem pushLoop_succ (fuel : Nat) (unleft : loop.left = false) :
    FrameDecoder.pushLoop (fuel + 1) loop.decoder loop.bytes loop.frames =
      if loop.running then
        if loop.iterate.left then (loop.iterate.decoder, loop.iterate.frames)
        else FrameDecoder.pushLoop fuel loop.iterate.decoder loop.iterate.bytes loop.iterate.frames
      else (loop.decoder, loop.frames) := by
  have test : loop.running = !(loop.bytes.isEmpty || loop.decoder.error.isSome) := by
    cases error : loop.decoder.error <;> simp [running, unleft, error]
  rw [FrameDecoder.pushLoop, test, readHeader_eq]
  cases stopped : loop.bytes.isEmpty || loop.decoder.error.isSome with
  | true => rfl
  | false =>
    rw [if_neg (by simp), Bool.not_false, if_pos rfl, iterate]
    by_cases header : loop.decoder.header.isSome = true
    · simp [header, fillPayload, unleft]
    · by_cases short : loop.fillHeader.decoder.headerBytesSize < frameHeaderSize
      · simp [header, short, fillHeader_frames]
      · by_cases refused : loop.fillHeader.startFrame.decoder.error.isSome = true
        · simp [header, short, refused, fillHeader_frames]
        · simp [header, short, refused, fillPayload, fillHeader_frames, unleft]

/-- The loop of a sound decoder ends, with the members and frames that the model's
loop computes. Induction on the bound, which exceeds the number of bytes left. -/
theorem pushLoop_ends (fuel : Nat) (unleft : loop.left = false) (sound : loop.decoder.Sound limit)
    (enough : loop.bytes.length < fuel) :
    ∃ count final, Loop.Ends Round loop count final ∧
      FrameDecoder.pushLoop fuel loop.decoder loop.bytes loop.frames =
        (final.decoder, final.frames) := by
  induction fuel generalizing loop with
  | zero => omega
  | succ fuel inductionHypothesis =>
    rw [pushLoop_succ fuel unleft]
    cases running : loop.running with
    | false =>
      refine ⟨0, loop, ⟨.start, ?_⟩, rfl⟩
      rintro after ⟨runs, -⟩
      simp [running] at runs
    | true =>
      have round : Round loop loop.iterate := ⟨running, rfl⟩
      obtain ⟨kept, fewer⟩ := iterate_sound sound running
      rw [if_pos rfl]
      cases left : loop.iterate.left with
      | true =>
        refine ⟨1, loop.iterate, ⟨.next .start round, ?_⟩, rfl⟩
        rintro after ⟨runs, -⟩
        simp [PushLoop.running, left] at runs
      | false =>
        obtain ⟨count, final, ⟨rounds, ended⟩, computed⟩ := inductionHypothesis left kept (by omega)
        exact ⟨count + 1, final, ⟨rounds.first round, ended⟩, by simpa using computed⟩

end Rounds

end PushLoop

namespace FrameDecoder

/-- A push of a sound decoder returns what the loop ends with. -/
theorem push_ends {limit : UInt32} {decoder : FrameDecoder} (sound : decoder.Sound limit)
    (bytes : Buffer) : ∃ count final,
      Loop.Ends PushLoop.Round { decoder := decoder, bytes := bytes } count final ∧
        decoder.push bytes = (final.decoder, final.frames) := by
  let entry : PushLoop := { decoder := decoder, bytes := bytes }
  have sound : entry.decoder.Sound limit := sound
  exact PushLoop.pushLoop_ends (bytes.length + 1) rfl sound (Nat.lt_succ_self _)

/-- A push keeps the members sound. -/
theorem Sound.push {limit : UInt32} {decoder : FrameDecoder} (sound : decoder.Sound limit)
    (bytes : Buffer) : (decoder.push bytes).1.Sound limit := by
  obtain ⟨count, final, ⟨rounds, -⟩, computed⟩ := push_ends sound bytes
  rw [computed]
  exact PushLoop.rounds_sound sound rounds

theorem performAll_sound (limit : UInt32) (history : List FrameGrammar.Call) :
    (FrameGrammar.performAll limit history).1.Sound limit := by
  induction history using List.reverseRecOn with
  | nil => exact fresh_sound limit
  | append_singleton earlier call inductionHypothesis =>
    have last : FrameGrammar.performAll limit (earlier ++ [call]) =
        FrameGrammar.perform (FrameGrammar.performAll limit earlier) call := by
      simp [FrameGrammar.performAll]
    rw [last]
    cases call with
    | push bytes => exact inductionHypothesis.push bytes
    | reset => exact inductionHypothesis.reset

/-- The members of a decoder are sound after any history of calls, and its loop never
goes wrong. In every round of a push of any bytes, each copy starts inside its
destination, `start_frame` finds a complete header, and a byte is consumed; never
more payload bytes are buffered than the limit allows. So a push takes at most one
round for each byte, and the loop ends with what the call returns. -/
theorem decoder_never_spins (limit : UInt32) (history : List FrameGrammar.Call) :
    let decoder := (FrameGrammar.performAll limit history).1
    (decoder.headerBytesSize ≤ frameHeaderSize ∧
      (∀ header, decoder.header = some header →
        decoder.error = none ∧ decoder.payload.length = header.payloadSize.toNat ∧
          header.payloadSize.toNat ≤ limit.toNat ∧
          decoder.payloadBytesSize < decoder.payload.length) ∧
      (decoder.header = none → decoder.payloadBytesSize = 0 ∧
        (decoder.error = none → decoder.headerBytesSize < frameHeaderSize))) ∧
    (∀ (bytes : Buffer) (count : Nat) (loop : PushLoop),
      Loop.Rounds PushLoop.Round { decoder := decoder, bytes := bytes } count loop →
      count ≤ bytes.length ∧ loop.decoder.payload.length ≤ limit.toNat ∧
        (loop.running = true →
          (∀ copy ∈ loop.copies, copy.2 ≤ copy.1.length) ∧
          (∀ filled, loop.starting = some filled →
            (decodeFrameHeader filled.decoder.headerBytes).isSome = true) ∧
          (∀ stage, loop.paying = some stage → stage.decoder.payload.length ≤ limit.toNat) ∧
          (loop.iterate.bytes.length < loop.bytes.length ∨
            loop.iterate.decoder.error.isSome = true))) ∧
    (∀ bytes : Buffer, ∃ count final,
      Loop.Ends PushLoop.Round { decoder := decoder, bytes := bytes } count final ∧
        decoder.push bytes = (final.decoder, final.frames)) := by
  intro decoder
  have sound : decoder.Sound limit := performAll_sound limit history
  refine ⟨⟨sound.headerWithin, sound.started, ?_⟩, ?_, ?_⟩
  · intro unstarted
    exact (sound.unstarted unstarted).2
  · intro bytes count loop rounds
    have kept : loop.decoder.Sound limit := PushLoop.rounds_sound sound rounds
    have bounded := PushLoop.rounds_bounded sound rounds
    refine ⟨by simp only at bounded; omega, kept.buffered, ?_⟩
    intro running
    refine ⟨?_, ?_, ?_, Or.inl (PushLoop.iterate_sound kept running).2⟩
    · intro copy member
      rcases List.mem_append.mp member with first | second
      · split at first
        · simp at first
        · obtain rfl := List.mem_singleton.mp first
          exact kept.array ▸ kept.headerWithin
      · obtain ⟨stage, reached, rfl⟩ := List.mem_map.mp second
        obtain ⟨header, paying⟩ := PushLoop.paying_members kept running (by simpa using reached)
        exact paying.within
    · intro filled starts
      unfold PushLoop.starting at starts
      split at starts
      · simp at starts
      · rename_i complete
        obtain rfl := Option.some.inj starts
        have unstarted : loop.decoder.header = none := by
          rw [← Option.not_isSome_iff_eq_none]
          exact fun started => complete (Or.inl started)
        exact (PushLoop.startFrame_paying kept unstarted running).1
    · intro stage reached
      obtain ⟨header, paying⟩ := PushLoop.paying_members kept running reached
      exact paying.size ▸ paying.bound
  · intro bytes
    exact push_ends sound bytes

end FrameDecoder

end Rillnet
