import ScuffleVideo.Wire.BitCursor
import ScuffleVideo.Wire.BitDecoding

/-!
# Exponential Golomb codes

A number is coded by as many zeros as its successor has bits behind the first, and the successor.
Signed numbers are coded by the odd numbers if they are positive and by the even ones else.  The
reader counts the zeros in a signed 32-bit number and collects the bits in an unsigned 64-bit one,
from which more than 64 bits are shifted out.
-/

namespace ScuffleVideo.Wire

/-! ## Codes -/

/-- The code of an unsigned number. -/
def ueBits (number : Nat) : List Bool :=
  List.replicate (Nat.log2 (number + 1)) false ++
    ([true] ++ toBits (Nat.log2 (number + 1)) (number + 1))

/-- The unsigned number that codes a signed one. -/
def seCode (number : Int) : Nat :=
  if 0 < number then (2 * number - 1).toNat else (-2 * number).toNat

/-- The code of a signed number. -/
def seBits (number : Int) : List Bool := ueBits (seCode number)

theorem length_ueBits (number : Nat) :
    (ueBits number).length = 2 * Nat.log2 (number + 1) + 1 := by
  rw [ueBits, List.length_append, List.length_append, List.length_replicate, length_toBits,
    List.length_singleton]
  omega

/-- The codes of signed 64-bit numbers have a successor, the one of the smallest apart. -/
theorem seCode_succ_lt {number : Int} (low : -2 ^ 63 < number) (high : number < 2 ^ 63) :
    seCode number + 1 < 2 ^ 64 := by
  unfold seCode
  split <;> omega

namespace BitReader

open BitCursor (asU64 asI64)

variable {α β : Type}

/-! ## Reading -/

/-- A computation between two reads. -/
def between (reader : Reader IoFault α) : BitReader α := fun state => do
  let value ← reader
  return (value, state)

/-- Move on without looking. -/
def skipBits (count : Nat) : BitReader Unit := do
  let _ ← seekBits count
  return ()

/-- Refuse what was read. -/
def refuse (wrong : Bool) (message : String) : BitReader Unit :=
  if wrong then between (Reader.fail (.invalidData message)) else pure ()

def optionally (present : Bool) (reader : BitReader α) : BitReader (Option α) :=
  if present then (do return some (← reader)) else pure none

/-- The result of signed 32-bit arithmetic. -/
def asI32 (checks : OverflowChecks) (value : Int) : Reader IoFault Int :=
  if -2 ^ 31 ≤ value ∧ value < 2 ^ 31 then pure value
  else match checks with
    | .on => Reader.fail .panic
    | .off => pure (value.bmod (2 ^ 32))

/-- The zeros in front of a one.  Each round takes a bit. -/
def countZeros (checks : OverflowChecks) : Nat → Int → BitReader Int
  | 0, _ => between (Reader.fail .unfinished)
  | rounds + 1, zeros => do
      if ← readBit then return zeros
      else do
        let zeros ← between (asI32 checks (zeros + 1))
        countZeros checks rounds zeros

/-- A loop that takes a step for every zero in front of a one. -/
def tally (step : α → Reader IoFault α) : Nat → α → BitReader α
  | 0, _ => between (Reader.fail .unfinished)
  | rounds + 1, total => do
      if ← readBit then return total
      else do
        let total ← between (step total)
        tally step rounds total

/-- The zeros in front of a one, if they are inside the buffer. -/
def leadingZeros (checks : OverflowChecks) : BitReader Int := fun state buffer position =>
  countZeros checks (8 * buffer.length + 8) 0 state buffer position

def readExpGolomb (checks : OverflowChecks) : BitReader UInt64 := do
  let zeros ← leadingZeros checks
  let result ← readBitsInto zeros.toNat 1
  let number ← between (asU64 checks (result.toNat - 1))
  return UInt64.ofNat number

def readSignedExpGolomb (checks : OverflowChecks) : BitReader Int := do
  let code ← readExpGolomb checks
  if code.toNat % 2 = 0 then return -(code.toNat / 2 : Nat)
  else between (asI64 checks ((code.toNat / 2 : Nat) + 1))

/-! ## Codes are decoded -/

theorem asU64_of_lt (checks : OverflowChecks) {value : Nat} (small : value < 2 ^ 64) :
    asU64 checks value = pure value := by
  unfold asU64
  rw [if_pos ⟨Int.natCast_nonneg value, by rw [Int.toNat_natCast]; exact small⟩, Int.toNat_natCast]

theorem asI64_of_lt (checks : OverflowChecks) {value : Int} (low : -2 ^ 63 ≤ value)
    (high : value < 2 ^ 63) : asI64 checks value = pure value := if_pos ⟨low, high⟩

theorem asI32_of_lt (checks : OverflowChecks) {value : Int} (low : -2 ^ 31 ≤ value)
    (high : value < 2 ^ 31) : asI32 checks value = pure value := if_pos ⟨low, high⟩

theorem asU64_inside (checks : OverflowChecks) {value : Int} {number : Nat} (same : value = number)
    (small : number < 2 ^ 64) : asU64 checks value = pure number := by
  subst same
  exact asU64_of_lt checks small

theorem asU64_panics {value : Int} (negative : value < 0) :
    asU64 .on value = Reader.fail .panic := by
  unfold asU64
  rw [if_neg (by omega)]

/-- A small number of a stream is itself. -/
theorem toNat_small {number : Nat} (small : number < 2 ^ 32) : (UInt64.ofNat number).toNat = number :=
  UInt64.toNat_ofNat_of_lt' (Nat.lt_trans small (by decide))

theorem small_beq {number : Nat} (small : number < 2 ^ 32) (other : UInt64) :
    (UInt64.ofNat number == other) = decide (number = other.toNat) := by
  rw [Bool.eq_iff_iff, beq_iff_eq, decide_eq_true_iff, ← UInt64.toNat_inj, toNat_small small]

/-- Arithmetic that has a result goes on with it. -/
theorem bind_of_pure {reader : Reader IoFault α} {value : α} (done : reader = pure value)
    (next : α → Reader IoFault β) : (reader >>= next) = next value := by
  subst done
  rfl

theorem bind_of_fail {reader : Reader IoFault α} {fault : IoFault}
    (failed : reader = Reader.fail fault) (next : α → Reader IoFault β) :
    (reader >>= next) = Reader.fail fault := by
  subst failed
  rfl

theorem between_bind {reader : Reader IoFault α} {value : α} (done : reader = pure value)
    (next : α → BitReader β) : (between reader >>= next) = next value := by
  subst done
  rfl

theorem refuse_false (message : String) (next : Unit → BitReader β) :
    (refuse false message >>= next) = next () := rfl

theorem Decodes.skipBits {count : Nat} {bits : List Bool} (size : bits.length = count) :
    Decodes (skipBits count) bits () := by
  have pass := @Decodes.seekBits Unit count bits [] (fun _ => Pure.pure ()) () size
    fun _ => Decodes.pure ()
  rw [List.append_nil] at pass
  exact pass

/-- A seek forward lands behind the bits that it passes. -/
theorem standing_of_skipBits {buffer : Bytes} {position stop bit count : Nat} {state last : BitState}
    (positive : 0 < count) (standing : Standing buffer position state bit)
    (done : skipBits count state buffer position = .ok (((), last), stop)) :
    Standing buffer stop last (bit + count) := by
  obtain ⟨value, middle, reached, sought, same⟩ := sequence_ok_iff.mp done
  cases same
  rcases seekBits_cases standing positive with ⟨_, _, _, moved, there⟩ | ⟨_, _, failed⟩
  · rw [moved] at sought
    cases sought
    exact there
  · rw [failed] at sought
    cases sought

/-- A field that is there or not, with what the reader makes of it. -/
theorem decodes_optional {reader : BitReader β} {encode : α → List Bool} {means : α → β}
    {value : Option α} (each : ∀ inner ∈ value, Decodes reader (encode inner) (means inner)) :
    Decodes (optionally value.isSome reader) (value.elim [] encode) (value.map means) := by
  cases value with
  | none => exact Decodes.pure none
  | some inner => exact (each inner rfl).map some

/-- A field that is there under a condition. -/
theorem decodes_conditional {reader : BitReader α} {bits : List Bool} {value : α}
    (condition : Prop) [Decidable condition] (read : Decodes reader bits value) :
    ∃ found, Decodes (optionally (decide condition) reader) (if condition then bits else []) found := by
  by_cases holds : condition
  · rw [decide_eq_true holds, if_pos holds]
    exact ⟨_, read.map some⟩
  · rw [decide_eq_false holds, if_neg holds]
    exact ⟨_, Decodes.pure none⟩

theorem Decodes.readBitsInto (number : UInt64) (bits : List Bool) :
    Decodes (readBitsInto bits.length number) bits
      (UInt64.ofNat (bits.foldl (fun total bit => total * 2 + bit.toNat) number.toNat)) :=
  of_takes (Takes.readBitsInto bits.length number) rfl

theorem countZeros_eq_tally (checks : OverflowChecks) (rounds : Nat) (zeros : Int) :
    countZeros checks rounds zeros = tally (fun zeros => asI32 checks (zeros + 1)) rounds zeros := by
  induction rounds generalizing zeros with
  | zero => rfl
  | succ rounds ih =>
      unfold countZeros tally
      simp only [ih]

theorem Decodes.tally {step : α → Reader IoFault α} {count rounds : Nat} {total : Nat → α}
    (steps : ∀ zeros < count, step (total zeros) = Pure.pure (total (zeros + 1)))
    (enough : count < rounds) :
    Decodes (tally step rounds (total 0)) (List.replicate count false ++ [true]) (total count) := by
  induction count generalizing rounds total with
  | zero =>
      obtain ⟨rounds, rfl⟩ : ∃ fewer, rounds = fewer + 1 := ⟨rounds - 1, by omega⟩
      exact (Decodes.readBit true).finish (Decodes.pure _)
  | succ count ih =>
      obtain ⟨rounds, rfl⟩ : ∃ fewer, rounds = fewer + 1 := ⟨rounds - 1, by omega⟩
      have rest := @ih rounds (fun zeros => total (zeros + 1))
        (fun zeros few => steps (zeros + 1) (Nat.succ_lt_succ few)) (Nat.lt_of_succ_lt_succ enough)
      rw [List.replicate_succ, List.cons_append, ← List.singleton_append]
      refine (Decodes.readBit false).bind ?_
      rw [if_neg Bool.false_ne_true, between_bind (steps 0 (Nat.succ_pos count))]
      exact rest

theorem foldl_bits (bits : List Bool) (number : Nat) :
    bits.foldl (fun total bit => total * 2 + bit.toNat) number =
      number * 2 ^ bits.length + ofBits bits := by
  induction bits using List.reverseRecOn with
  | nil => simp [ofBits]
  | append_singleton bits bit ih =>
      rw [List.foldl_append, ih, ofBits_append_singleton, List.length_append, List.length_singleton,
        Nat.pow_succ]
      change (number * 2 ^ bits.length + ofBits bits) * 2 + bit.toNat = _
      ring

/-- The zeros in front of a one are fewer than the bits of the buffer. -/
theorem zeros_lt_rounds {buffer : Bytes} {before after : List Bool} {count : Nat}
    (whole : bytesBits buffer = before ++ (List.replicate count false ++ [true] ++ after)) :
    count < 8 * buffer.length + 8 := by
  have size := congrArg List.length whole
  rw [length_bytesBits, List.length_append, List.length_append, List.length_append,
    List.length_replicate] at size
  omega

theorem Decodes.leadingZeros (checks : OverflowChecks) {count : Nat} (small : count < 2 ^ 31) :
    Decodes (leadingZeros checks) (List.replicate count false ++ [true]) (count : Int) := by
  intro buffer before after position state whole standing
  have steps (zeros : Nat) (few : zeros < count) :
      asI32 checks ((zeros : Int) + 1) = Pure.pure ((zeros + 1 : Nat) : Int) :=
    asI32_of_lt checks (by omega) (by omega)
  have zeros := @Decodes.tally Int (fun zeros => asI32 checks (zeros + 1)) count _
    (fun zeros => zeros) steps (zeros_lt_rounds whole)
  have counted := zeros buffer before after position state whole standing
  unfold BitReader.leadingZeros
  rw [countZeros_eq_tally]
  exact counted

theorem Decodes.readExpGolomb (checks : OverflowChecks) {number : Nat} (small : number + 1 < 2 ^ 64) :
    Decodes (readExpGolomb checks) (ueBits number) (UInt64.ofNat number) := by
  have positive : number + 1 ≠ 0 := Nat.succ_ne_zero number
  have few : Nat.log2 (number + 1) < 64 := (Nat.log2_lt positive).mpr small
  have low := Nat.log2_self_le positive
  have high := Nat.lt_log2_self (n := number + 1)
  -- The one in front of the collected bits is the highest of the successor.
  have collected : (toBits (Nat.log2 (number + 1)) (number + 1)).foldl
      (fun total bit => total * 2 + bit.toNat) (1 : UInt64).toNat = number + 1 := by
    rw [foldl_bits, length_toBits, ofBits_toBits]
    change 1 * 2 ^ _ + _ = _
    rw [Nat.mod_eq_sub_mod low, Nat.mod_eq_of_lt]
    · omega
    · rw [Nat.pow_succ] at high
      omega
  have bits := Decodes.readBitsInto 1 (toBits (Nat.log2 (number + 1)) (number + 1))
  rw [collected, length_toBits] at bits
  have number64 : ((UInt64.ofNat (number + 1)).toNat : Int) - 1 = number := by
    rw [UInt64.toNat_ofNat_of_lt' small]
    omega
  rw [ueBits, ← List.append_assoc]
  refine (Decodes.leadingZeros checks (Nat.lt_trans few (by decide))).bind ?_
  rw [Int.toNat_natCast]
  refine bits.finish ?_
  rw [number64, between_bind (asU64_of_lt checks (show number < 2 ^ 64 by omega))]
  exact Decodes.pure _

theorem decodes_ue (checks : OverflowChecks) {number : Nat} (small : number < 2 ^ 32) :
    Decodes (readExpGolomb checks) (ueBits number) (UInt64.ofNat number) :=
  Decodes.readExpGolomb checks (by omega)

theorem Decodes.readSignedExpGolomb (checks : OverflowChecks) {number : Int}
    (low : -2 ^ 63 < number) (high : number < 2 ^ 63) :
    Decodes (readSignedExpGolomb checks) (seBits number) number := by
  have small := seCode_succ_lt low high
  have code : (UInt64.ofNat (seCode number)).toNat = seCode number :=
    UInt64.toNat_ofNat_of_lt' (Nat.lt_of_succ_lt small)
  refine (Decodes.readExpGolomb checks small).finish ?_
  rw [code]
  by_cases positive : 0 < number
  · have odd : seCode number = 2 * (number.toNat - 1) + 1 := by
      rw [seCode, if_pos positive]
      omega
    have half : ((seCode number / 2 : Nat) : Int) + 1 = number := by omega
    rw [if_neg (by omega), half, asI64_of_lt checks (by omega) (by omega)]
    exact Decodes.pure number
  · have even : seCode number = 2 * (-number).toNat := by
      rw [seCode, if_neg positive]
      omega
    have half : -((seCode number / 2 : Nat) : Int) = number := by omega
    rw [if_pos (by omega), half]
    exact Decodes.pure number

end BitReader

end ScuffleVideo.Wire
