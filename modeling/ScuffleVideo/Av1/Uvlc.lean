import ScuffleVideo.Wire.Walk

/-!
# Variable-length numbers of AV1

A number stands behind as many zeros as it has bits, and a one; 32 zeros or more stand for the
largest number of 32 bits alone.  The reader counts the zeros in a byte, so that the specified
numbers are read unless 256 zeros stand in front.
-/

namespace ScuffleVideo.Av1

open Wire BitReader

/-! ## Reading -/

/-- The result of unsigned 8-bit arithmetic. -/
def asU8 (checks : OverflowChecks) (value : Nat) : Reader IoFault Nat :=
  if value < 2 ^ 8 then pure value
  else match checks with
    | .on => Reader.fail .panic
    | .off => pure (value % 2 ^ 8)

/-- The zeros in front of a one, in a byte. -/
def leadingZeros (checks : OverflowChecks) : BitReader Nat := fun state buffer position =>
  tally (fun zeros => asU8 checks (zeros + 1)) (8 * buffer.length + 8) 0 state buffer position

def readUvlc (checks : OverflowChecks) : BitReader UInt64 := do
  let zeros ← leadingZeros checks
  if 32 ≤ zeros then return ((1 : UInt64) <<< 32) - 1
  else do
    let value ← readBits zeros
    return value + (1 <<< UInt64.ofNat zeros) - 1

/-! ## The specification -/

/-- The number at the start of some bits and how many of them it takes, by section 4.10.3 of the
specification.  There is none if the bits run out. -/
def uvlc (bits : List Bool) : Option (Nat × Nat) :=
  let zeros := (bits.takeWhile not).length
  if bits.length ≤ zeros then none
  else if 32 ≤ zeros then some (2 ^ 32 - 1, zeros + 1)
  else if bits.length < zeros + 1 + zeros then none
  else some (ofBits ((bits.drop (zeros + 1)).take zeros) + 2 ^ zeros - 1, zeros + 1 + zeros)

/-- At a place the reader returns the specified number and stands behind its bits, or ends with an
error if the bits run out. -/
def MatchesUvlc (buffer : Bytes) (position : Nat) (state : BitState) (bit : Nat) : Prop :=
  match uvlc ((bytesBits buffer).drop bit) with
  | some (number, count) => ∃ last stop,
      readUvlc .on state buffer position = .ok ((UInt64.ofNat number, last), stop) ∧
        Standing buffer stop last (bit + count)
  | none => ∃ fault, readUvlc .on state buffer position = .error fault ∧ fault.isReturned = true

section

variable {buffer : Bytes} {position bit : Nat} {state : BitState}

/-- A reader that stands at a bit counts the zeros behind it, in eight bits. -/
theorem leadingZeros_cases (standing : Standing buffer position state bit) :
    (zerosAt buffer bit < 2 ^ 8 ∧ zerosAt buffer bit < 8 * buffer.length - bit ∧
      ∃ last stop, leadingZeros .on state buffer position =
          .ok ((zerosAt buffer bit, last), stop) ∧
        Standing buffer stop last (bit + (zerosAt buffer bit + 1))) ∨
    (zerosAt buffer bit < 2 ^ 8 ∧ 8 * buffer.length - bit ≤ zerosAt buffer bit ∧
      ∃ fault, leadingZeros .on state buffer position = .error fault ∧ fault.isReturned = true) ∨
    (2 ^ 8 ≤ zerosAt buffer bit ∧ leadingZeros .on state buffer position = .error .panic) := by
  have steps (zeros : Nat) (room : zeros + 1 < 2 ^ 8) : asU8 .on (zeros + 1) = pure (zeros + 1) :=
    if_pos room
  have trap (zeros : Nat) (full : zeros + 1 = 2 ^ 8) : asU8 .on (zeros + 1) = Reader.fail .panic :=
    if_neg (by omega)
  have counted := @tally_cases Nat (fun zeros => asU8 .on (zeros + 1)) id (2 ^ 8) steps trap buffer
    (8 * buffer.length + 8) 0 position bit state standing (by decide) (by omega) _ rfl
  rw [Nat.zero_add] at counted
  exact counted

/-- The specified number of the bits behind a place. -/
theorem uvlc_at (buffer : Bytes) (bit : Nat) : uvlc ((bytesBits buffer).drop bit) =
    if 8 * buffer.length - bit ≤ zerosAt buffer bit then none
    else if 32 ≤ zerosAt buffer bit then some (2 ^ 32 - 1, zerosAt buffer bit + 1)
    else if 8 * buffer.length - bit < zerosAt buffer bit + 1 + zerosAt buffer bit then none
    else some (ofBits (slice buffer (bit + (zerosAt buffer bit + 1)) (zerosAt buffer bit)) +
      2 ^ zerosAt buffer bit - 1, zerosAt buffer bit + 1 + zerosAt buffer bit) := by
  have length : ((bytesBits buffer).drop bit).length = 8 * buffer.length - bit := by
    rw [List.length_drop, length_bytesBits]
  unfold uvlc
  rw [length, slice, ← List.drop_drop]
  rfl

/-- The number of few bits and the offset of its width stay inside 64 bits. -/
theorem add_offset {zeros value : Nat} (few : zeros < 32) (small : value < 2 ^ zeros) :
    UInt64.ofNat value + (1 <<< UInt64.ofNat zeros) - 1 = UInt64.ofNat (value + 2 ^ zeros - 1) := by
  have power : 2 ^ zeros < 2 ^ 32 := Nat.pow_lt_pow_right (by decide) few
  have positive := Nat.two_pow_pos zeros
  have shifted : (1 : UInt64) <<< UInt64.ofNat zeros = UInt64.ofNat (2 ^ zeros) := by
    have width : (UInt64.ofNat zeros).toNat % 64 = zeros := by
      rw [UInt64.toNat_ofNat_of_lt' (show zeros < 2 ^ 64 by omega), Nat.mod_eq_of_lt (by omega)]
    rw [← UInt64.toNat_inj, UInt64.toNat_shiftLeft, width, Nat.shiftLeft_eq,
      UInt64.toNat_ofNat_of_lt' (show 2 ^ zeros < 2 ^ 64 by omega)]
    change 1 * 2 ^ zeros % 2 ^ 64 = 2 ^ zeros
    rw [Nat.one_mul, Nat.mod_eq_of_lt (by omega)]
  rw [shifted, ← UInt64.ofNat_add, UInt64.ofNat_sub (show 1 ≤ value + 2 ^ zeros by omega)]
  rfl

/-- The specified number is read, or the error found, exactly if the zeros in front can be counted in
a byte. -/
theorem matchesUvlc_iff (standing : Standing buffer position state bit) :
    MatchesUvlc buffer position state bit ↔ zerosAt buffer bit < 256 := by
  unfold MatchesUvlc
  rw [uvlc_at]
  rcases leadingZeros_cases standing with ⟨few, one, middle, reached, counted, there⟩ |
    ⟨few, none, fault, failed, returned⟩ | ⟨many, failed⟩
  · refine iff_of_true ?_ few
    have read : readUvlc .on state buffer position = _ := sequence_ok counted
    rw [if_neg (Nat.not_le.mpr one), read]
    by_cases large : 32 ≤ zerosAt buffer bit
    · rw [if_pos large, if_pos large]
      exact ⟨middle, reached, rfl, there⟩
    · rw [if_neg large, if_neg large]
      have takes := Takes.readBits (zerosAt buffer bit)
      rw [Nat.min_eq_left (by omega)] at takes
      rcases takes _ _ _ _ there with ⟨enough, last, stop, digits, behind⟩ | ⟨short, fault, failed⟩
      · have small := ofBits_lt (slice buffer (bit + (zerosAt buffer bit + 1)) (zerosAt buffer bit))
        rw [length_slice enough] at small
        rw [if_neg (by unfold Enough at enough; omega), sequence_ok digits,
          add_offset (Nat.not_le.mp large) small]
        refine ⟨last, stop, rfl, ?_⟩
        rw [Nat.add_assoc] at behind
        exact behind
      · rw [if_pos (by unfold Enough at short; omega)]
        exact ⟨fault, sequence_error failed,
          (Returns.readBits _).returned middle |>.returned _ _ _ failed⟩
  · refine iff_of_true ?_ few
    rw [if_pos none]
    exact ⟨fault, sequence_error failed, returned⟩
  · -- The count overflows at the last of 256 zeros, whatever is specified.
    have crashed : readUvlc .on state buffer position = .error .panic := sequence_error failed
    refine iff_of_false (fun matching => ?_) (Nat.not_lt.mpr many)
    rw [crashed] at matching
    split at matching
    · obtain ⟨_, _, impossible, _⟩ := matching
      cases impossible
    · obtain ⟨_, same, returned⟩ := matching
      cases same
      cases returned

end

/-- 256 zeros and a one. -/
def longUvlc : Bytes := List.replicate 32 0 ++ [0x80]

/-- The largest number of 32 bits is specified, and the count of the zeros overflows. -/
theorem longUvlc_crashes : ¬MatchesUvlc longUvlc 0 ⟨0, 0⟩ 0 := by
  have failed : readUvlc .on ⟨0, 0⟩ longUvlc 0 = .error .panic := by decide +kernel
  have specified : uvlc ((bytesBits longUvlc).drop 0) = some (2 ^ 32 - 1, 257) := by decide +kernel
  unfold MatchesUvlc
  rw [specified]
  rintro ⟨_, _, impossible, _⟩
  cases failed.symm.trans impossible

/-- Seven zeros and a one, and then seven bits. -/
theorem matchesUvlc_short : Standing [0x01, 0xFF] 0 ⟨0, 0⟩ 0 ∧ MatchesUvlc [0x01, 0xFF] 0 ⟨0, 0⟩ 0 :=
  ⟨Standing.start _, (matchesUvlc_iff (Standing.start _)).mpr (by decide +kernel)⟩

end ScuffleVideo.Av1
