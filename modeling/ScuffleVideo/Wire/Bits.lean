import ScuffleVideo.Wire.ByteOrder

/-!
# Bits, most significant first

A number is written as exactly `width` bits, and bytes as eight bits each.  Two
numbers written one after the other are one number of the joint width, and bytes
are determined by their bits, so a layout in bits can be turned into a layout in
bytes wherever its fields fill whole bytes.
-/

namespace ScuffleVideo.Wire

/-- The `width` low bits of `number`, the most significant first. -/
def toBits : Nat → Nat → List Bool
  | 0, _ => []
  | width + 1, number => toBits width (number / 2) ++ [number % 2 == 1]

/-- The number denoted by bits. -/
def ofBits (bits : List Bool) : Nat := bits.foldl (fun number bit => number * 2 + bit.toNat) 0

def byteBits (byte : UInt8) : List Bool := toBits 8 byte.toNat

def bytesBits (bytes : Bytes) : List Bool := bytes.flatMap byteBits

@[simp]
theorem length_toBits (width number : Nat) : (toBits width number).length = width := by
  induction width generalizing number with
  | zero => rfl
  | succ width ih => simp only [toBits, List.length_append, ih, List.length_singleton]

@[simp]
theorem length_byteBits (byte : UInt8) : (byteBits byte).length = 8 := length_toBits 8 _

@[simp]
theorem length_bytesBits (bytes : Bytes) : (bytesBits bytes).length = 8 * bytes.length := by
  induction bytes with
  | nil => rfl
  | cons byte bytes ih =>
      rw [bytesBits, List.flatMap_cons, List.length_append, length_byteBits, List.length_cons]
      change 8 + (bytesBits bytes).length = _
      rw [ih]
      omega

@[simp]
theorem bytesBits_nil : bytesBits [] = [] := rfl

@[simp]
theorem bytesBits_cons (byte : UInt8) (bytes : Bytes) :
    bytesBits (byte :: bytes) = byteBits byte ++ bytesBits bytes := List.flatMap_cons

@[simp]
theorem bytesBits_append (bytes rest : Bytes) :
    bytesBits (bytes ++ rest) = bytesBits bytes ++ bytesBits rest := List.flatMap_append

theorem ofBits_append_singleton (bits : List Bool) (bit : Bool) :
    ofBits (bits ++ [bit]) = ofBits bits * 2 + bit.toNat := by
  simp only [ofBits, List.foldl_append, List.foldl_cons, List.foldl_nil]

/-- Reading what was written recovers the number modulo the width. -/
theorem ofBits_toBits (width number : Nat) : ofBits (toBits width number) = number % 2 ^ width := by
  induction width generalizing number with
  | zero => rw [Nat.pow_zero, Nat.mod_one]; rfl
  | succ width ih =>
      have low : (number % 2 == 1).toNat = number % 2 := by
        rcases Nat.mod_two_eq_zero_or_one number with even | odd
        · rw [even]; rfl
        · rw [odd]; rfl
      rw [toBits, ofBits_append_singleton, ih, low, Nat.pow_succ', Nat.mod_mul]
      omega

theorem toBits_zero (width : Nat) : toBits width 0 = List.replicate width false := by
  induction width with
  | zero => rfl
  | succ width ih =>
      rw [toBits, Nat.zero_div, ih, List.replicate_succ']
      rfl

/-- A flag as a bit. -/
theorem toBits_one (bit : Bool) : toBits 1 bit.toNat = [bit] := by cases bit <;> rfl

/-- The first of several bits is the highest. -/
theorem toBits_succ (width number : Nat) :
    toBits (width + 1) number = (number / 2 ^ width % 2 == 1) :: toBits width number := by
  induction width generalizing number with
  | zero => simp [toBits]
  | succ width ih =>
      rw [toBits, ih, List.cons_append, Nat.div_div_eq_div_mul, ← Nat.pow_succ']
      rfl

/-- Numbers written one after the other are one number of the joint width. -/
theorem toBits_append (width more number rest : Nat) (small : rest < 2 ^ more) :
    toBits width number ++ toBits more rest = toBits (width + more) (number * 2 ^ more + rest) := by
  induction more generalizing rest with
  | zero =>
      have zero : rest = 0 := by simpa using small
      rw [zero, Nat.pow_zero, Nat.mul_one, Nat.add_zero]
      exact List.append_nil _
  | succ more ih =>
      have half : rest / 2 < 2 ^ more := by
        rw [Nat.pow_succ] at small
        omega
      have quotient : (number * 2 ^ (more + 1) + rest) / 2 = number * 2 ^ more + rest / 2 := by
        rw [Nat.pow_succ, ← Nat.mul_assoc]
        omega
      have remainder : (number * 2 ^ (more + 1) + rest) % 2 = rest % 2 := by
        rw [Nat.pow_succ, ← Nat.mul_assoc]
        omega
      rw [← Nat.add_assoc, toBits, toBits, ← List.append_assoc, ih _ half, quotient, remainder]

/-- A byte is determined by its bits. -/
theorem ofBits_byteBits (byte : UInt8) : ofBits (byteBits byte) = byte.toNat := by
  rw [byteBits, ofBits_toBits]
  exact Nat.mod_eq_of_lt byte.toNat_lt

/-- Eight bits that denote a number are those of a byte. -/
theorem toBits_eight {number : Nat} (small : number < 256) :
    toBits 8 number = byteBits (UInt8.ofNat number) := by
  rw [byteBits, UInt8.toNat_ofNat_of_lt' small]

/-- A field that is a byte. -/
theorem bytesBits_octet {number : Nat} (small : number < 2 ^ 8) (rest : Bytes) :
    bytesBits (UInt8.ofNat number :: rest) = toBits 8 number ++ bytesBits rest := by
  rw [bytesBits_cons, toBits_eight small]

/-- Two fields that fill a byte. -/
theorem bytesBits_pair {width more number low : Nat} (whole : width + more = 8)
    (high : number < 2 ^ width) (small : low < 2 ^ more) (rest : Bytes) :
    bytesBits (UInt8.ofNat (number * 2 ^ more + low) :: rest) =
      toBits width number ++ (toBits more low ++ bytesBits rest) := by
  have inside : number * 2 ^ more + low < 2 ^ 8 := by
    calc number * 2 ^ more + low < number * 2 ^ more + 2 ^ more := by omega
      _ = (number + 1) * 2 ^ more := (Nat.succ_mul _ _).symm
      _ ≤ 2 ^ width * 2 ^ more := Nat.mul_le_mul_right _ high
      _ = 2 ^ 8 := by rw [← Nat.pow_add, whole]
  rw [bytesBits_octet inside, ← List.append_assoc, toBits_append _ _ _ _ small, whole]

/-- A big-endian field is its number in bits. -/
theorem bytesBits_toBytesBE (width number : Nat) :
    bytesBits (toBytesBE width number) = toBits (8 * width) number := by
  induction width generalizing number with
  | zero => rfl
  | succ width ih =>
      have low : (UInt8.ofNat number).toNat = number % 2 ^ 8 := UInt8.toNat_ofNat'
      rw [toBytesBE, bytesBits_append, ih, bytesBits_cons, bytesBits_nil, List.append_nil, byteBits,
        low, toBits_append _ _ _ _ (Nat.mod_lt _ (by decide)), Nat.mul_succ,
        show number / 256 * 2 ^ 8 + number % 2 ^ 8 = number by omega]

/-- Bytes are determined by their bits. -/
theorem bytesBits_injective {bytes rest : Bytes} (same : bytesBits bytes = bytesBits rest) :
    bytes = rest := by
  induction bytes generalizing rest with
  | nil =>
      have empty := congrArg List.length same
      rw [length_bytesBits, length_bytesBits, List.length_nil] at empty
      exact (List.eq_nil_of_length_eq_zero (by omega)).symm
  | cons byte bytes ih =>
      cases rest with
      | nil =>
          have lengths := congrArg List.length same
          rw [length_bytesBits, length_bytesBits, List.length_cons, List.length_nil] at lengths
          omega
      | cons other rest =>
          rw [bytesBits_cons, bytesBits_cons] at same
          obtain ⟨first, others⟩ := List.append_inj same
            ((length_byteBits byte).trans (length_byteBits other).symm)
          have equal : byte.toNat = other.toNat := by
            rw [← ofBits_byteBits, ← ofBits_byteBits, first]
          rw [UInt8.toNat_inj.mp equal, ih others]

/-! ## Bits at places -/

theorem getElem?_toBits {width place : Nat} (number : Nat) (inside : place < width) :
    (toBits width number)[place]? = some (number / 2 ^ (width - 1 - place) % 2 == 1) := by
  induction width generalizing place with
  | zero => exact absurd inside (Nat.not_lt_zero place)
  | succ width ih =>
      rw [toBits_succ]
      cases place with
      | zero => rfl
      | succ place =>
          rw [List.getElem?_cons_succ, ih (Nat.lt_of_succ_lt_succ inside),
            show width + 1 - 1 - (place + 1) = width - 1 - place by omega]

/-- The bits of a byte stand at the eight places of its position. -/
theorem getElem?_bytesBits (bytes : Bytes) (position : Nat) {place : Nat} (inside : place < 8) :
    (bytesBits bytes)[8 * position + place]? =
      bytes[position]?.map fun byte => byte.toNat / 2 ^ (7 - place) % 2 == 1 := by
  induction bytes generalizing position with
  | nil => rfl
  | cons byte bytes ih =>
      rw [bytesBits_cons]
      cases position with
      | zero =>
          rw [List.getElem?_append_left (by rw [length_byteBits]; omega), Nat.mul_zero, Nat.zero_add,
            byteBits, getElem?_toBits byte.toNat inside]
          rfl
      | succ position =>
          rw [List.getElem?_append_right (by rw [length_byteBits]; omega), length_byteBits,
            List.getElem?_cons_succ, ← ih position]
          congr 1
          omega

theorem ofBits_lt (bits : List Bool) : ofBits bits < 2 ^ bits.length := by
  induction bits using List.reverseRecOn with
  | nil => exact Nat.zero_lt_one
  | append_singleton bits bit ih =>
      have small := Bool.toNat_le bit
      rw [ofBits_append_singleton, List.length_append, List.length_singleton, Nat.pow_succ]
      omega

theorem toBits_ofBits (bits : List Bool) : toBits bits.length (ofBits bits) = bits := by
  induction bits using List.reverseRecOn with
  | nil => rfl
  | append_singleton bits bit ih =>
      have half : (ofBits bits * 2 + bit.toNat) / 2 = ofBits bits := by
        cases bit <;> simp only [Bool.toNat_false, Bool.toNat_true] <;> omega
      have low : ((ofBits bits * 2 + bit.toNat) % 2 == 1) = bit := by
        cases bit <;> simp
      rw [List.length_append, List.length_singleton, toBits, ofBits_append_singleton, half, low, ih]

/-- Bits taken as so many bytes. -/
def bitsBytes : Nat → List Bool → Bytes
  | 0, _ => []
  | count + 1, bits => UInt8.ofNat (ofBits (bits.take 8)) :: bitsBytes count (bits.drop 8)

@[simp]
theorem length_bitsBytes (count : Nat) (bits : List Bool) : (bitsBytes count bits).length = count := by
  induction count generalizing bits with
  | zero => rfl
  | succ count ih => rw [bitsBytes, List.length_cons, ih]

theorem bitsBytes_bytesBits (bytes : Bytes) : bitsBytes bytes.length (bytesBits bytes) = bytes := by
  induction bytes with
  | nil => rfl
  | cons byte bytes ih =>
      rw [List.length_cons, bitsBytes, bytesBits_cons, List.take_left' (length_byteBits byte),
        List.drop_left' (length_byteBits byte), ih, ofBits_byteBits, UInt8.ofNat_toNat]

/-- Bits that fill bytes are the bits of those bytes. -/
theorem bytesBits_bitsBytes {count : Nat} {bits : List Bool} (size : bits.length = 8 * count) :
    bytesBits (bitsBytes count bits) = bits := by
  induction count generalizing bits with
  | zero => exact (List.eq_nil_of_length_eq_zero size).symm
  | succ count ih =>
      have eight : (bits.take 8).length = 8 := by
        rw [List.length_take]
        omega
      have small := ofBits_lt (bits.take 8)
      have whole := toBits_ofBits (bits.take 8)
      rw [eight] at small whole
      rw [bitsBytes, bytesBits_cons, ← toBits_eight small, whole,
        ih (by rw [List.length_drop]; omega), List.take_append_drop]

theorem bytesBits_take (bytes : Bytes) (count : Nat) :
    bytesBits (bytes.take count) = (bytesBits bytes).take (8 * count) := by
  induction bytes generalizing count with
  | nil => rw [List.take_nil, bytesBits_nil, List.take_nil]
  | cons byte bytes ih =>
      cases count with
      | zero => rfl
      | succ count =>
          have whole : (byteBits byte).take (8 * (count + 1)) = byteBits byte :=
            List.take_of_length_le (by rw [length_byteBits]; omega)
          rw [List.take_succ_cons, bytesBits_cons, bytesBits_cons, ih, List.take_append,
            length_byteBits, whole, Nat.mul_succ, Nat.add_sub_cancel]

theorem bytesBits_drop (bytes : Bytes) (count : Nat) :
    bytesBits (bytes.drop count) = (bytesBits bytes).drop (8 * count) := by
  induction bytes generalizing count with
  | nil => rw [List.drop_nil, bytesBits_nil, List.drop_nil]
  | cons byte bytes ih =>
      cases count with
      | zero => rfl
      | succ count =>
          have whole : (byteBits byte).drop (8 * (count + 1)) = [] :=
            List.drop_eq_nil_of_le (by rw [length_byteBits]; omega)
          rw [List.drop_succ_cons, bytesBits_cons, ih, List.drop_append, length_byteBits, whole,
            List.nil_append, Nat.mul_succ, Nat.add_sub_cancel]

end ScuffleVideo.Wire
