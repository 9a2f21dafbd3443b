import Rillnet.Frame
import Rillnet.Library.BigEndian

/-!
# Frame encoding

The fixed eighteen-byte representation of a frame header and its inverse. The
writers shift and mask; the readers shift and combine. Both are related to
big-endian digits of the field's value, from which the round trips follow in
both directions.
-/

namespace Rillnet

/-- The header occupies eighteen bytes. -/
def frameHeaderSize : Nat := 18

/-- Two bytes, the more significant first. -/
def writeBe16 (value : UInt16) : Buffer :=
  [((value >>> 8) &&& 0xFF).toUInt8, (value &&& 0xFF).toUInt8]

/-- Four bytes, the most significant first. -/
def writeBe32 (value : UInt32) : Buffer :=
  [((value >>> 24) &&& 0xFF).toUInt8, ((value >>> 16) &&& 0xFF).toUInt8,
    ((value >>> 8) &&& 0xFF).toUInt8, (value &&& 0xFF).toUInt8]

/-- Eight bytes, the most significant first. -/
def writeBe64 (value : UInt64) : Buffer :=
  (List.range 8).map fun i => ((value >>> UInt64.ofNat (56 - 8 * i)) &&& 0xFF).toUInt8

/-- The byte at an index; readers are only given spans that are long enough. -/
def byteAt (bytes : Buffer) (index : Nat) : UInt8 := bytes.getD index 0

/-- The value of the first two bytes. -/
def readBe16 (bytes : Buffer) : UInt16 :=
  ((byteAt bytes 0).toUInt16 <<< 8) ||| (byteAt bytes 1).toUInt16

/-- The value of the first four bytes. -/
def readBe32 (bytes : Buffer) : UInt32 :=
  ((byteAt bytes 0).toUInt32 <<< 24) ||| ((byteAt bytes 1).toUInt32 <<< 16) |||
    ((byteAt bytes 2).toUInt32 <<< 8) ||| (byteAt bytes 3).toUInt32

/-- The value of the first eight bytes. -/
def readBe64 (bytes : Buffer) : UInt64 :=
  (List.range 8).foldl (fun value i => (value <<< 8) ||| (byteAt bytes i).toUInt64) 0

/-- The header's wire representation, field by field at its documented offset. -/
def encodeFrameHeader (header : FrameHeader) : Buffer :=
  writeBe16 header.version.major ++ writeBe16 header.version.minor ++ [header.type.value] ++
    [header.flags.value] ++ writeBe64 header.stream.value ++ writeBe32 header.payloadSize

/-- Absent exactly when fewer than eighteen bytes are available; nothing else is
checked. -/
def decodeFrameHeader (bytes : Buffer) : Option FrameHeader :=
  if bytes.length < frameHeaderSize then none
  else
    some {
      version := ⟨readBe16 bytes, readBe16 (bytes.drop 2)⟩
      type := ⟨byteAt bytes 4⟩
      flags := ⟨byteAt bytes 5⟩
      stream := ⟨readBe64 (bytes.drop 6)⟩
      payloadSize := readBe32 (bytes.drop 14) }

/-- Header followed by payload. -/
def encodeFrame (frame : Frame) : Buffer := encodeFrameHeader frame.header ++ frame.payload

section Writers

/-- Masking a byte changes nothing. -/
theorem byte_mask (number : Nat) : number % 256 &&& 255 = number % 256 := by
  rw [show (255 : Nat) = 2 ^ 8 - 1 from rfl, Nat.and_two_pow_sub_one_eq_mod]
  omega

/-- Shifting and masking yields the digits to the base 256. -/
theorem writeBe16_eq_digits (value : UInt16) :
    writeBe16 value = BigEndian.digits 2 value.toNat := by
  simp [writeBe16, BigEndian.digits, ← UInt8.toNat_inj, Nat.shiftRight_eq_div_pow, byte_mask]

/-- Shifting and masking yields the digits to the base 256. -/
theorem writeBe32_eq_digits (value : UInt32) :
    writeBe32 value = BigEndian.digits 4 value.toNat := by
  simp [writeBe32, BigEndian.digits, ← UInt8.toNat_inj, Nat.shiftRight_eq_div_pow, byte_mask,
    Nat.div_div_eq_div_mul]

/-- The loop writes the same eight digits, from the most significant one. -/
theorem writeBe64_eq_digits (value : UInt64) :
    writeBe64 value = BigEndian.digits 8 value.toNat := by
  simp [writeBe64, BigEndian.digits, List.range_succ, ← UInt8.toNat_inj,
    Nat.shiftRight_eq_div_pow, byte_mask, Nat.div_div_eq_div_mul]

end Writers

section Readers

/-- Combining a byte into the vacated low byte adds it. -/
theorem or_byte (number byte : Nat) (small : byte < 256) :
    number * 256 ||| byte = number * 256 + byte := by
  have shifted := Nat.shiftLeft_add_eq_or_of_lt (i := 8) small number
  rw [Nat.shiftLeft_eq] at shifted
  exact shifted.symm

/-- Shifting and combining yields the value of the digits. -/
theorem readBe16_eq_value (bytes : Buffer) (enough : 2 ≤ bytes.length) :
    (readBe16 bytes).toNat = BigEndian.value 0 (bytes.take 2) := by
  match bytes, enough with
  | first :: second :: rest, _ =>
    have room := first.toNat_lt
    have shifted : first.toNat * 2 ^ 8 % 2 ^ 16 = first.toNat * 256 := by omega
    simp only [readBe16, byteAt, UInt16.toNat_or, UInt16.toNat_shiftLeft, UInt8.toNat_toUInt16,
      Nat.shiftLeft_eq, List.getD_cons_zero, List.getD_cons_succ]
    change first.toNat * 2 ^ 8 % 2 ^ 16 ||| second.toNat = _
    rw [shifted, or_byte _ _ second.toNat_lt]
    simp [BigEndian.value]

/-- Disjoint bytes of a shifted word combine like digits. -/
theorem or_shifted_byte (number byte shift : Nat) (small : byte < 256) :
    number * 2 ^ (shift + 8) ||| byte * 2 ^ shift = (number * 256 + byte) * 2 ^ shift := by
  rw [← or_byte number byte small]
  simp only [← Nat.shiftLeft_eq]
  rw [Nat.shiftLeft_or_distrib, Nat.shiftLeft_eq (number * 256), Nat.shiftLeft_eq number,
    Nat.pow_add, Nat.mul_comm (2 ^ shift), Nat.mul_assoc]

/-- Shifting and combining yields the value of the digits. -/
theorem readBe32_eq_value (bytes : Buffer) (enough : 4 ≤ bytes.length) :
    (readBe32 bytes).toNat = BigEndian.value 0 (bytes.take 4) := by
  match bytes, enough with
  | first :: second :: third :: fourth :: rest, _ =>
    have room0 := first.toNat_lt
    have room1 := second.toNat_lt
    have room2 := third.toNat_lt
    have shifted0 : first.toNat * 2 ^ 24 % 2 ^ 32 = first.toNat * 2 ^ (16 + 8) :=
      Nat.mod_eq_of_lt (by omega)
    have shifted1 : second.toNat * 2 ^ 16 % 2 ^ 32 = second.toNat * 2 ^ (8 + 8) :=
      Nat.mod_eq_of_lt (by omega)
    have shifted2 : third.toNat * 2 ^ 8 % 2 ^ 32 = third.toNat * 2 ^ 8 :=
      Nat.mod_eq_of_lt (by omega)
    have joined0 := or_shifted_byte first.toNat second.toNat (8 + 8) room1
    have joined1 := or_shifted_byte (first.toNat * 256 + second.toNat) third.toNat 8 room2
    have joined2 := or_byte ((first.toNat * 256 + second.toNat) * 256 + third.toNat) fourth.toNat
      fourth.toNat_lt
    simp only [readBe32, byteAt, UInt32.toNat_or, UInt32.toNat_shiftLeft, UInt8.toNat_toUInt32,
      Nat.shiftLeft_eq, List.getD_cons_zero, List.getD_cons_succ]
    change first.toNat * 2 ^ 24 % 2 ^ 32 ||| second.toNat * 2 ^ 16 % 2 ^ 32 |||
      third.toNat * 2 ^ 8 % 2 ^ 32 ||| fourth.toNat = _
    rw [shifted0, shifted1, shifted2, joined0, joined1]
    simpa [BigEndian.value] using joined2

/-- One round of the reading loop, as long as nothing is shifted out. -/
theorem shift_or_toNat (value : UInt64) (byte : UInt8) (room : value.toNat < 2 ^ 56) :
    ((value <<< 8) ||| byte.toUInt64).toNat = value.toNat * 256 + byte.toNat := by
  have shifted : value.toNat * 2 ^ 8 % 2 ^ 64 = value.toNat * 256 := by omega
  simp only [UInt64.toNat_or, UInt64.toNat_shiftLeft, UInt8.toNat_toUInt64, Nat.shiftLeft_eq]
  change value.toNat * 2 ^ 8 % 2 ^ 64 ||| byte.toNat = _
  rw [shifted, or_byte _ _ byte.toNat_lt]

/-- After any number of rounds the loop holds the value of the bytes read so
far. At most seven bytes precede a round, so none of them is shifted out. -/
theorem readBe64_rounds (bytes : Buffer) (rounds : Nat) (within : rounds ≤ 8)
    (enough : rounds ≤ bytes.length) :
    ((List.range rounds).foldl
      (fun (value : UInt64) i => (value <<< 8) ||| (byteAt bytes i).toUInt64) 0).toNat =
      BigEndian.value 0 (bytes.take rounds) := by
  induction rounds with
  | zero => simp [BigEndian.value]
  | succ rounds inductionHypothesis =>
    have inside : rounds < bytes.length := enough
    have read := inductionHypothesis (by omega) (by omega)
    have small : BigEndian.value 0 (bytes.take rounds) < 2 ^ 56 := by
      have bound := BigEndian.value_lt (bytes.take rounds)
      rw [List.length_take, Nat.min_eq_left (by omega)] at bound
      exact Nat.lt_of_lt_of_le bound (Nat.pow_le_pow_right (n := 256) (by decide) (by omega :
        rounds ≤ 7))
    rw [List.range_succ, List.foldl_append, List.foldl_cons, List.foldl_nil,
      shift_or_toNat _ _ (read ▸ small), read, List.take_add_one, BigEndian.value_append]
    simp [BigEndian.value, byteAt, List.getElem?_eq_getElem inside]

/-- Shifting and combining yields the value of the digits. -/
theorem readBe64_eq_value (bytes : Buffer) (enough : 8 ≤ bytes.length) :
    (readBe64 bytes).toNat = BigEndian.value 0 (bytes.take 8) :=
  readBe64_rounds bytes 8 (Nat.le_refl 8) enough

end Readers

section RoundTrips

/-- What is written is read back, whatever follows. -/
theorem readBe16_writeBe16 (value : UInt16) (rest : Buffer) :
    readBe16 (writeBe16 value ++ rest) = value := by
  apply UInt16.toNat_inj.mp
  rw [readBe16_eq_value _ (by simp [writeBe16]), List.take_left' (by simp [writeBe16]),
    writeBe16_eq_digits, BigEndian.value_digits]
  exact Nat.mod_eq_of_lt value.toNat_lt

/-- What is written is read back, whatever follows. -/
theorem readBe32_writeBe32 (value : UInt32) (rest : Buffer) :
    readBe32 (writeBe32 value ++ rest) = value := by
  apply UInt32.toNat_inj.mp
  rw [readBe32_eq_value _ (by simp [writeBe32]), List.take_left' (by simp [writeBe32]),
    writeBe32_eq_digits, BigEndian.value_digits]
  exact Nat.mod_eq_of_lt value.toNat_lt

/-- What is written is read back, whatever follows. -/
theorem readBe64_writeBe64 (value : UInt64) (rest : Buffer) :
    readBe64 (writeBe64 value ++ rest) = value := by
  apply UInt64.toNat_inj.mp
  rw [readBe64_eq_value _ (by simp [writeBe64]), List.take_left' (by simp [writeBe64]),
    writeBe64_eq_digits, BigEndian.value_digits]
  exact Nat.mod_eq_of_lt value.toNat_lt

/-- What is read is written back. -/
theorem writeBe16_readBe16 (bytes : Buffer) (enough : 2 ≤ bytes.length) :
    writeBe16 (readBe16 bytes) = bytes.take 2 := by
  have width : (bytes.take 2).length = 2 := by simp [enough]
  have exact := BigEndian.digits_value (bytes.take 2)
  rw [width] at exact
  rw [writeBe16_eq_digits, readBe16_eq_value bytes enough, exact]

/-- What is read is written back. -/
theorem writeBe32_readBe32 (bytes : Buffer) (enough : 4 ≤ bytes.length) :
    writeBe32 (readBe32 bytes) = bytes.take 4 := by
  have width : (bytes.take 4).length = 4 := by simp [enough]
  have exact := BigEndian.digits_value (bytes.take 4)
  rw [width] at exact
  rw [writeBe32_eq_digits, readBe32_eq_value bytes enough, exact]

/-- What is read is written back. -/
theorem writeBe64_readBe64 (bytes : Buffer) (enough : 8 ≤ bytes.length) :
    writeBe64 (readBe64 bytes) = bytes.take 8 := by
  have width : (bytes.take 8).length = 8 := by simp [enough]
  have exact := BigEndian.digits_value (bytes.take 8)
  rw [width] at exact
  rw [writeBe64_eq_digits, readBe64_eq_value bytes enough, exact]

/-- Every encoded header has the documented size. -/
@[simp] theorem encodeFrameHeader_length (header : FrameHeader) :
    (encodeFrameHeader header).length = frameHeaderSize := by
  simp [encodeFrameHeader, writeBe16, writeBe32, writeBe64, frameHeaderSize]

/-- Decoding an encoded header returns it, whatever bytes follow. -/
theorem decode_encoded_header (header : FrameHeader) (rest : Buffer) :
    decodeFrameHeader (encodeFrameHeader header ++ rest) = some header := by
  have enough : ¬(encodeFrameHeader header ++ rest).length < frameHeaderSize := by simp
  have stream : (encodeFrameHeader header ++ rest).drop 6 =
      writeBe64 header.stream.value ++ (writeBe32 header.payloadSize ++ rest) := by
    simp [encodeFrameHeader, writeBe16]
  have size : (encodeFrameHeader header ++ rest).drop 14 =
      writeBe32 header.payloadSize ++ rest := by
    simp [encodeFrameHeader, writeBe16, writeBe64, List.range_succ]
  have minor : (encodeFrameHeader header ++ rest).drop 2 = writeBe16 header.version.minor ++
      ([header.type.value] ++ [header.flags.value] ++ writeBe64 header.stream.value ++
        writeBe32 header.payloadSize ++ rest) := by
    simp [encodeFrameHeader, writeBe16]
  have major : encodeFrameHeader header ++ rest = writeBe16 header.version.major ++
      (writeBe16 header.version.minor ++ [header.type.value] ++ [header.flags.value] ++
        writeBe64 header.stream.value ++ writeBe32 header.payloadSize ++ rest) := by
    simp [encodeFrameHeader]
  have type : byteAt (encodeFrameHeader header ++ rest) 4 = header.type.value := by
    simp [byteAt, encodeFrameHeader, writeBe16]
  have flags : byteAt (encodeFrameHeader header ++ rest) 5 = header.flags.value := by
    simp [byteAt, encodeFrameHeader, writeBe16]
  simp only [decodeFrameHeader, enough, if_false, type, flags, stream, size, minor,
    readBe64_writeBe64, readBe32_writeBe32, readBe16_writeBe16]
  rw [major, readBe16_writeBe16]

/-- A decoded header was read from eighteen bytes. -/
theorem decoded_fields (bytes : Buffer) (header : FrameHeader)
    (decoded : decodeFrameHeader bytes = some header) :
    18 ≤ bytes.length ∧ header = {
      version := ⟨readBe16 bytes, readBe16 (bytes.drop 2)⟩
      type := ⟨byteAt bytes 4⟩
      flags := ⟨byteAt bytes 5⟩
      stream := ⟨readBe64 (bytes.drop 6)⟩
      payloadSize := readBe32 (bytes.drop 14) } := by
  unfold decodeFrameHeader at decoded
  split at decoded
  · simp at decoded
  · rename_i long
    exact ⟨Nat.le_of_not_lt long, (Option.some.inj decoded).symm⟩

/-- Encoding a decoded header returns the bytes it was decoded from. -/
theorem encode_decoded_header (bytes : Buffer) (header : FrameHeader)
    (decoded : decodeFrameHeader bytes = some header) :
    encodeFrameHeader header = bytes.take frameHeaderSize := by
  obtain ⟨enough, rfl⟩ := decoded_fields bytes header decoded
  have pieces : bytes.take frameHeaderSize = bytes.take 2 ++ (bytes.drop 2).take 2 ++
      (bytes.drop 4).take 1 ++ (bytes.drop 5).take 1 ++ (bytes.drop 6).take 8 ++
      (bytes.drop 14).take 4 := by
    rw [show frameHeaderSize = 2 + 2 + 1 + 1 + 8 + 4 from rfl, List.take_add, List.take_add,
      List.take_add, List.take_add, List.take_add]
  have single (index : Nat) (inside : index < bytes.length) :
      (bytes.drop index).take 1 = [byteAt bytes index] := by
    simp only [List.drop_eq_getElem_cons inside, List.take_succ_cons, List.take_zero, byteAt,
      List.getD_eq_getElem?_getD, List.getElem?_eq_getElem inside, Option.getD_some]
  rw [pieces, encodeFrameHeader, writeBe16_readBe16 _ (by omega),
    writeBe16_readBe16 _ (by rw [List.length_drop]; omega),
    writeBe64_readBe64 _ (by rw [List.length_drop]; omega),
    writeBe32_readBe32 _ (by rw [List.length_drop]; omega),
    single 4 (by omega), single 5 (by omega)]

/-- A number stands at an offset in big-endian order: the byte of each place is the
number's digit of that place. -/
def BigEndianAt (bytes : Buffer) (offset width number : Nat) : Prop :=
  ∀ index < width,
    byteAt bytes (offset + index) = UInt8.ofNat (number / 256 ^ (width - 1 - index))

/-- The documented places of a header's fields. -/
structure HeaderLayout (bytes : Buffer) (header : FrameHeader) : Prop where
  major : BigEndianAt bytes 0 2 header.version.major.toNat
  minor : BigEndianAt bytes 2 2 header.version.minor.toNat
  type : byteAt bytes 4 = header.type.value
  flags : byteAt bytes 5 = header.flags.value
  stream : BigEndianAt bytes 6 8 header.stream.value.toNat
  payloadSize : BigEndianAt bytes 14 4 header.payloadSize.toNat

/-- Bytes that are the digits of a number hold it in big-endian order. -/
theorem bigEndianAt_of_digits (bytes : Buffer) (offset width number : Nat)
    (digits : (bytes.drop offset).take width = BigEndian.digits width number) :
    BigEndianAt bytes offset width number := by
  intro index inside
  have same : byteAt bytes (offset + index) = ((bytes.drop offset).take width).getD index 0 := by
    simp only [byteAt, List.getD_eq_getElem?_getD, List.getElem?_take, inside, if_true,
      List.getElem?_drop]
  rw [same, digits, BigEndian.digits_getD width number index inside]

/-- A decoded header's fields stand at their places. -/
theorem decoded_layout (bytes : Buffer) (header : FrameHeader)
    (decoded : decodeFrameHeader bytes = some header) : HeaderLayout bytes header := by
  obtain ⟨enough, rfl⟩ := decoded_fields bytes header decoded
  refine ⟨?_, ?_, rfl, rfl, ?_, ?_⟩
  · apply bigEndianAt_of_digits
    rw [List.drop_zero, ← writeBe16_eq_digits, writeBe16_readBe16 _ (by omega)]
  · apply bigEndianAt_of_digits
    rw [← writeBe16_eq_digits, writeBe16_readBe16 _ (by rw [List.length_drop]; omega)]
  · apply bigEndianAt_of_digits
    rw [← writeBe64_eq_digits, writeBe64_readBe64 _ (by rw [List.length_drop]; omega)]
  · apply bigEndianAt_of_digits
    rw [← writeBe32_eq_digits, writeBe32_readBe32 _ (by rw [List.length_drop]; omega)]

/-- The header codec is a bijection between headers and strings of eighteen bytes.
A header is decoded from its encoding, whatever follows; any string that is long
enough decodes to a header whose encoding begins the string; and in both the fields
stand at their documented places. Shorter strings decode to nothing. -/
theorem header_codec_bijective :
    (∀ (header : FrameHeader) (rest : Buffer),
      decodeFrameHeader (encodeFrameHeader header ++ rest) = some header ∧
        HeaderLayout (encodeFrameHeader header ++ rest) header) ∧
    (∀ bytes : Buffer, frameHeaderSize ≤ bytes.length →
      ∃ header, decodeFrameHeader bytes = some header ∧
        encodeFrameHeader header = bytes.take frameHeaderSize ∧ HeaderLayout bytes header) ∧
    (∀ bytes : Buffer, bytes.length < frameHeaderSize → decodeFrameHeader bytes = none) := by
  refine ⟨?_, ?_, ?_⟩
  · intro header rest
    have decoded := decode_encoded_header header rest
    exact ⟨decoded, decoded_layout _ header decoded⟩
  · intro bytes enough
    obtain ⟨header, decoded⟩ : ∃ header, decodeFrameHeader bytes = some header := by
      rw [decodeFrameHeader, if_neg (Nat.not_lt.mpr enough)]
      exact ⟨_, rfl⟩
    exact ⟨header, decoded, encode_decoded_header bytes header decoded,
      decoded_layout bytes header decoded⟩
  · intro bytes short
    rw [decodeFrameHeader, if_pos short]

end RoundTrips

end Rillnet
