import Mathlib.Algebra.Group.Nat.Defs
import Mathlib.Data.List.Basic
import Mathlib.Data.List.Induction

/-!
# Big-endian digits of natural numbers

A natural number is written as a fixed number of bytes, most significant first.
Reading accumulates from the left. Writing and reading are inverse in both
directions for every width, so fixed-width codecs built on them are bijections.
-/

namespace BigEndian

/-- The `width` least significant bytes of a number, most significant first. -/
def digits : Nat → Nat → List UInt8
  | 0, _ => []
  | width + 1, number => digits width (number / 256) ++ [UInt8.ofNat number]

/-- Accumulate bytes after an already read number. -/
def value (read : Nat) (bytes : List UInt8) : Nat :=
  bytes.foldl (fun number byte => number * 256 + byte.toNat) read

/-- The written length is the width. -/
@[simp] theorem digits_length (width number : Nat) : (digits width number).length = width := by
  induction width generalizing number with
  | zero => rfl
  | succ width inductionHypothesis => simp [digits, inductionHypothesis]

/-- The byte at an index is the digit of that place, counted from the most
significant one. -/
theorem digits_getD (width number index : Nat) (inside : index < width) :
    (digits width number).getD index 0 = UInt8.ofNat (number / 256 ^ (width - 1 - index)) := by
  induction width generalizing number with
  | zero => omega
  | succ width inductionHypothesis =>
    by_cases last : index = width
    · subst last
      simp [digits, List.getD_eq_getElem?_getD]
    · have before : index < width := by omega
      have place : width + 1 - 1 - index = width - 1 - index + 1 := by omega
      have front : (digits (width + 1) number).getD index 0 =
          (digits width (number / 256)).getD index 0 := by
        rw [digits, List.getD_eq_getElem?_getD, List.getElem?_append_left (by simpa using before),
          List.getD_eq_getElem?_getD]
      rw [front, inductionHypothesis _ before, Nat.div_div_eq_div_mul, place, Nat.pow_succ',
        Nat.mul_comm]

/-- Reading a concatenation continues from the number read so far. -/
theorem value_append (read : Nat) (left right : List UInt8) :
    value read (left ++ right) = value (value read left) right := by
  simp [value, List.foldl_append]

/-- Reading what was written recovers the number modulo the width. -/
theorem value_digits (width number : Nat) : value 0 (digits width number) = number % 256 ^ width := by
  induction width generalizing number with
  | zero => simp [digits, value, Nat.mod_one]
  | succ width inductionHypothesis =>
    rw [digits, value_append, inductionHypothesis]
    have lowest : (UInt8.ofNat number).toNat = number % 256 := by simp
    have split : number % 256 ^ (width + 1) =
        number / 256 % 256 ^ width * 256 + number % 256 := by
      rw [Nat.pow_succ, Nat.mul_comm, Nat.mod_mul, Nat.add_comm, Nat.mul_comm]
    simp only [value, List.foldl_cons, List.foldl_nil, lowest, split]

/-- Bytes read as a number below the width's bound. -/
theorem value_lt (bytes : List UInt8) : value 0 bytes < 256 ^ bytes.length := by
  induction bytes using List.reverseRecOn with
  | nil => simp [value]
  | append_singleton front last inductionHypothesis =>
    have small : last.toNat < 256 := last.toNat_lt
    simp only [value_append, List.length_append, List.length_cons, List.length_nil, Nat.zero_add,
      Nat.pow_succ]
    simp only [value, List.foldl_cons, List.foldl_nil] at inductionHypothesis ⊢
    omega

/-- Writing what was read recovers the bytes. -/
theorem digits_value (bytes : List UInt8) : digits bytes.length (value 0 bytes) = bytes := by
  induction bytes using List.reverseRecOn with
  | nil => rfl
  | append_singleton front last inductionHypothesis =>
    have small : last.toNat < 256 := last.toNat_lt
    have high : value 0 (front ++ [last]) / 256 = value 0 front := by
      simp only [value_append]
      simp only [value, List.foldl_cons, List.foldl_nil]
      omega
    have low : UInt8.ofNat (value 0 (front ++ [last])) = last := by
      apply UInt8.toNat_inj.mp
      simp only [value_append, UInt8.toNat_ofNat']
      simp only [value, List.foldl_cons, List.foldl_nil]
      omega
    rw [List.length_append, List.length_cons, List.length_nil, digits, high, low,
      inductionHypothesis]

end BigEndian
