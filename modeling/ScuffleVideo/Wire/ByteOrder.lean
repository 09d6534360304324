import Mathlib.Data.List.Induction
import Mathlib.Tactic.Ring

/-!
# Fixed-width integers in byte order

A natural number is written as exactly `width` bytes, most significant byte
first or least significant byte first, and read back as the number those bytes
denote.  The width is a parameter, so one pair of round-trip laws serves every
field width of a wire format.
-/

namespace ScuffleVideo.Wire

abbrev Bytes := List UInt8

/-- The `width` big-endian bytes of `number`; higher digits are dropped. -/
def toBytesBE : Nat → Nat → Bytes
  | 0, _ => []
  | width + 1, number => toBytesBE width (number / 256) ++ [UInt8.ofNat number]

/-- The number denoted by big-endian bytes. -/
def ofBytesBE (bytes : Bytes) : Nat :=
  bytes.foldl (fun number byte => number * 256 + byte.toNat) 0

def toBytesLE (width number : Nat) : Bytes := (toBytesBE width number).reverse

def ofBytesLE (bytes : Bytes) : Nat := ofBytesBE bytes.reverse

@[simp]
theorem length_toBytesBE (width number : Nat) :
    (toBytesBE width number).length = width := by
  induction width generalizing number with
  | zero => rfl
  | succ width ih => simp only [toBytesBE, List.length_append, ih, List.length_singleton]

@[simp]
theorem length_toBytesLE (width number : Nat) :
    (toBytesLE width number).length = width := by
  rw [toBytesLE, List.length_reverse, length_toBytesBE]

theorem ofBytesBE_append_singleton (bytes : Bytes) (byte : UInt8) :
    ofBytesBE (bytes ++ [byte]) = ofBytesBE bytes * 256 + byte.toNat := by
  simp only [ofBytesBE, List.foldl_append, List.foldl_cons, List.foldl_nil]

/-- Reading what was written recovers the number modulo the field width. -/
theorem ofBytesBE_toBytesBE (width number : Nat) :
    ofBytesBE (toBytesBE width number) = number % 256 ^ width := by
  induction width generalizing number with
  | zero => simp only [toBytesBE, ofBytesBE, List.foldl_nil, pow_zero, Nat.mod_one]
  | succ width ih =>
      have low : (UInt8.ofNat number).toNat = number % 256 := UInt8.toNat_ofNat'
      rw [toBytesBE, ofBytesBE_append_singleton, ih, low, pow_succ', Nat.mod_mul]
      ring

theorem ofBytesLE_toBytesLE (width number : Nat) :
    ofBytesLE (toBytesLE width number) = number % 256 ^ width := by
  rw [ofBytesLE, toBytesLE, List.reverse_reverse, ofBytesBE_toBytesBE]

/-- Bytes denote a number below the width they occupy. -/
theorem ofBytesBE_lt (bytes : Bytes) : ofBytesBE bytes < 256 ^ bytes.length := by
  induction bytes using List.reverseRecOn with
  | nil => exact Nat.one_pos
  | append_singleton bytes byte ih =>
      have low : byte.toNat < 256 := byte.toNat_lt
      rw [ofBytesBE_append_singleton, List.length_append, List.length_singleton, pow_succ]
      omega

/-- Bytes are what is written for the number they denote. -/
theorem toBytesBE_ofBytesBE (bytes : Bytes) : toBytesBE bytes.length (ofBytesBE bytes) = bytes := by
  induction bytes using List.reverseRecOn with
  | nil => rfl
  | append_singleton bytes byte ih =>
      have small : byte.toNat < 256 := byte.toNat_lt
      have high : (ofBytesBE bytes * 256 + byte.toNat) / 256 = ofBytesBE bytes := by omega
      have low : UInt8.ofNat (ofBytesBE bytes * 256 + byte.toNat) = byte := by
        apply UInt8.toNat_inj.mp
        rw [UInt8.toNat_ofNat']
        omega
      rw [ofBytesBE_append_singleton, List.length_append, List.length_singleton, toBytesBE, high,
        low, ih]

end ScuffleVideo.Wire
