import ScuffleVideo.Wire.Bits
import ScuffleVideo.Wire.Cursor

/-!
# Writing bits

A bit writer collects bits into a byte and passes the byte on when it is full.
What it has been given is a list of bits: those of the bytes passed on and those
collected since.  `Emits` says which bits an action appends and under which
condition it does not fail, and composes through sequencing.
-/

namespace ScuffleVideo.Wire

structure BitWriter where
  bitPos : Nat
  currentByte : UInt8
  written : Bytes
  deriving DecidableEq, Repr

abbrev BitWriting := StateT BitWriter (Except IoFault) Unit

namespace BitWriter

def new : BitWriter := ⟨0, 0, []⟩

/-- Set or clear the bit at the position, and pass a full byte on. -/
def writeBit (writer : BitWriter) (bit : Bool) : BitWriter :=
  let mask := (1 : UInt8) <<< UInt8.ofNat (7 - writer.bitPos)
  let byte := if bit then writer.currentByte ||| mask else writer.currentByte &&& ~~~mask
  if writer.bitPos + 1 = 8 then ⟨0, 0, writer.written ++ [byte]⟩
  else ⟨writer.bitPos + 1, byte, writer.written⟩

/-- The `count` low bits of a number, the most significant first. -/
def writeLowBits (bits : UInt64) : Nat → BitWriter → BitWriter
  | 0, writer => writer
  | count + 1, writer =>
      writeLowBits bits count (writer.writeBit ((bits >>> UInt64.ofNat count) &&& 1 == 1))

def isAligned (writer : BitWriter) : Bool := writer.bitPos % 8 == 0

end BitWriter

namespace BitWriting

def writeBit (bit : Bool) : BitWriting := fun writer => .ok ((), writer.writeBit bit)

def writeBits (bits : UInt64) (count : Nat) : BitWriting := fun writer =>
  if min count 64 ≠ 64 ∧ 2 ^ min count 64 - 1 < bits.toNat then
    .error (.invalidData "bits too large to write")
  else .ok ((), writer.writeLowBits bits (min count 64))

/-- Bytes go straight through at a byte boundary and bit by bit elsewhere. -/
def writeAll (bytes : Bytes) : BitWriting := fun writer =>
  if writer.isAligned then .ok ((), { writer with written := writer.written ++ bytes })
  else .ok ((), bytes.foldl (fun writer byte => writer.writeLowBits byte.toUInt64 8) writer)

/-- A six-byte little-endian field.  Writing a wider number is a panic. -/
def writeU48LE (number : UInt64) : BitWriting := fun writer =>
  if number.toNat < 2 ^ 48 then writeAll (toBytesLE 6 number.toNat) writer else .error .panic

def align : BitWriting := fun writer =>
  if writer.isAligned then .ok ((), writer) else writeBits 0 (8 - writer.bitPos % 8) writer

/-- The bytes that an action on a new writer passes on, the last one filled up. -/
def finish (action : BitWriting) : Except IoFault Bytes := do
  let ((), writer) ← (do action; align : BitWriting) BitWriter.new
  return writer.written

end BitWriting

/-! ## The bits of a writer -/

namespace BitWriter

/-- The bits a writer has been given. -/
def bits (writer : BitWriter) : List Bool :=
  bytesBits writer.written ++
    toBits writer.bitPos (writer.currentByte.toNat / 2 ^ (8 - writer.bitPos))

/-- Setting or clearing a bit leaves those above it. -/
theorem upper_setBit (byte : UInt8) (bit : Bool) {place : Nat} (inside : place < 8) :
    (if bit then byte ||| (1 : UInt8) <<< UInt8.ofNat place
      else byte &&& ~~~((1 : UInt8) <<< UInt8.ofNat place)).toNat / 2 ^ place =
      byte.toNat / 2 ^ (place + 1) * 2 + bit.toNat := by
  have mask : ((1 : UInt8) <<< UInt8.ofNat place).toNat = 2 ^ place := by
    have small : 2 ^ place < 2 ^ 8 := Nat.pow_lt_pow_right (by decide) inside
    rw [UInt8.toNat_shiftLeft, UInt8.toNat_ofNat_of_lt' (Nat.lt_trans inside (by decide)), Nat.mod_eq_of_lt inside,
      Nat.shiftLeft_eq]
    simpa using Nat.mod_eq_of_lt small
  apply Nat.eq_of_testBit_eq
  intro index
  have upper : (byte.toNat / 2 ^ (place + 1) * 2 + bit.toNat).testBit index =
      if index = 0 then bit else byte.toNat.testBit (index + place) := by
    cases index with
    | zero => cases bit <;> simp
    | succ index =>
        have half : (byte.toNat / 2 ^ (place + 1) * 2 + bit.toNat) / 2 =
            byte.toNat / 2 ^ (place + 1) := by
          cases bit <;> simp only [Bool.toNat_false, Bool.toNat_true] <;> omega
        rw [Nat.testBit_succ, half, Nat.testBit_div_two_pow, if_neg (Nat.succ_ne_zero index)]
        congr 1
        omega
  rw [upper, Nat.testBit_div_two_pow]
  cases bit with
  | true =>
      rw [if_pos rfl, UInt8.toNat_or, Nat.testBit_or, mask, Nat.testBit_two_pow]
      by_cases first : index = 0
      · rw [if_pos first, first]
        simp
      · rw [if_neg first, decide_eq_false (by omega), Bool.or_false]
  | false =>
      rw [if_neg Bool.false_ne_true, UInt8.toNat_and, Nat.testBit_and, UInt8.toNat_not, mask]
      have complement : (UInt8.size - 1 - 2 ^ place).testBit (index + place) =
          (decide (index + place < 8) && !decide (place = index + place)) := by
        rw [show UInt8.size - 1 - 2 ^ place = 2 ^ 8 - (2 ^ place + 1) by
          simp only [UInt8.size]; omega,
          Nat.testBit_two_pow_sub_succ (Nat.pow_lt_pow_right (by decide) inside),
          Nat.testBit_two_pow]
      rw [complement]
      by_cases first : index = 0
      · rw [if_pos first, first]
        simp
      · rw [if_neg first, decide_eq_false (show ¬place = index + place by omega), Bool.not_false,
          Bool.and_true]
        by_cases within : index + place < 8
        · rw [decide_eq_true within, Bool.and_true]
        · have beyond : byte.toNat.testBit (index + place) = false :=
            Nat.testBit_lt_two_pow (Nat.lt_of_lt_of_le byte.toNat_lt
              (Nat.pow_le_pow_right (by decide) (Nat.le_of_not_lt within)))
          rw [beyond, Bool.false_and]

theorem writeBit_bits {writer : BitWriter} (inside : writer.bitPos < 8) (bit : Bool) :
    (writer.writeBit bit).bits = writer.bits ++ [bit] ∧ (writer.writeBit bit).bitPos < 8 := by
  have shape (byte : UInt8)
      (upper : byte.toNat / 2 ^ (7 - writer.bitPos) =
        writer.currentByte.toNat / 2 ^ (8 - writer.bitPos) * 2 + bit.toNat) :
      toBits (writer.bitPos + 1) (byte.toNat / 2 ^ (8 - (writer.bitPos + 1))) =
        toBits writer.bitPos (writer.currentByte.toNat / 2 ^ (8 - writer.bitPos)) ++ [bit] := by
    rw [show 8 - (writer.bitPos + 1) = 7 - writer.bitPos by omega, upper, toBits]
    congr 1
    · congr 1
      cases bit <;> simp only [Bool.toNat_false, Bool.toNat_true] <;> omega
    · cases bit <;> simp
  have upper := upper_setBit writer.currentByte bit (show 7 - writer.bitPos < 8 by omega)
  rw [show 7 - writer.bitPos + 1 = 8 - writer.bitPos by omega] at upper
  have collected := shape _ upper
  unfold writeBit
  dsimp only
  split
  · rename_i full
    refine ⟨?_, Nat.zero_lt_succ 7⟩
    rw [full, Nat.sub_self, Nat.pow_zero, Nat.div_one] at collected
    rw [bits, bits, List.append_assoc (bytesBits writer.written), ← collected]
    simp only [toBits, List.append_nil, bytesBits_append, bytesBits_cons, bytesBits_nil, byteBits]
  · refine ⟨?_, by simp only; omega⟩
    rw [bits, bits, List.append_assoc (bytesBits writer.written), ← collected]

/-- The shift and mask of the loop pick out the bit that halving leaves. -/
theorem selected_bit (bits : UInt64) {count : Nat} (inside : count < 64) :
    ((bits >>> UInt64.ofNat count) &&& 1 == 1) = (bits.toNat / 2 ^ count % 2 == 1) := by
  have number : ((bits >>> UInt64.ofNat count) &&& 1).toNat = bits.toNat / 2 ^ count % 2 := by
    rw [UInt64.toNat_and, UInt64.toNat_shiftRight,
      UInt64.toNat_ofNat_of_lt' (Nat.lt_trans inside (by decide)), Nat.mod_eq_of_lt inside,
      Nat.shiftRight_eq_div_pow]
    exact Nat.and_one_is_mod _
  rw [Bool.eq_iff_iff, beq_iff_eq, beq_iff_eq, ← UInt64.toNat_inj, number]
  rfl

theorem writeLowBits_bits {bits : UInt64} {count : Nat} (inside : count ≤ 64) {writer : BitWriter}
    (started : writer.bitPos < 8) :
    (writer.writeLowBits bits count).bits = writer.bits ++ toBits count bits.toNat ∧
      (writer.writeLowBits bits count).bitPos < 8 := by
  induction count generalizing writer with
  | zero => exact ⟨(List.append_nil _).symm, started⟩
  | succ count ih =>
      obtain ⟨first, next⟩ :=
        writeBit_bits started ((bits >>> UInt64.ofNat count) &&& 1 == 1)
      obtain ⟨rest, last⟩ := ih (Nat.le_of_succ_le inside) next
      refine ⟨?_, last⟩
      rw [writeLowBits, rest, first, selected_bit bits (Nat.lt_of_succ_le inside), toBits_succ,
        List.append_assoc, List.singleton_append]

/-- The loop over bytes that do not start at a boundary. -/
theorem writeBytes_bits (bytes : Bytes) {writer : BitWriter} (started : writer.bitPos < 8) :
    (bytes.foldl (fun writer byte => writer.writeLowBits byte.toUInt64 8) writer).bits =
        writer.bits ++ bytesBits bytes ∧
      (bytes.foldl (fun writer byte => writer.writeLowBits byte.toUInt64 8) writer).bitPos < 8 := by
  induction bytes generalizing writer with
  | nil => exact ⟨(List.append_nil _).symm, started⟩
  | cons byte bytes ih =>
      obtain ⟨appended, within⟩ :=
        @writeLowBits_bits byte.toUInt64 8 (by decide) writer started
      obtain ⟨rest, last⟩ := ih within
      rw [List.foldl_cons]
      refine ⟨?_, last⟩
      rw [rest, appended, UInt8.toNat_toUInt64, List.append_assoc, bytesBits_cons, byteBits]

end BitWriter

namespace BitWriting

/-- The action appends `bits` when `condition` holds, and fails otherwise. -/
def Emits (action : BitWriting) (condition : Prop) (bits : List Bool) : Prop :=
  ∀ writer : BitWriter, writer.bitPos < 8 →
    (condition ∧ ∃ next, action writer = .ok ((), next) ∧ next.bits = writer.bits ++ bits ∧
      next.bitPos < 8) ∨
    (¬condition ∧ ∃ fault, action writer = .error fault)

namespace Emits

theorem skip : Emits (pure ()) True [] :=
  fun writer started => .inl ⟨trivial, writer, rfl, (List.append_nil _).symm, started⟩

theorem seq {first second : BitWriting} {one two : Prop} {bits rest : List Bool}
    (head : Emits first one bits) (tail : Emits second two rest) :
    Emits (do first; second) (one ∧ two) (bits ++ rest) := by
  intro writer started
  have run : (do first; second : BitWriting) writer =
      match first writer with
      | .error fault => .error fault
      | .ok ((), next) => second next := by
    change (first writer >>= fun pair => second pair.2) = _
    cases first writer <;> rfl
  rw [run]
  rcases head writer started with ⟨holds, next, done, appended, inside⟩ | ⟨fails, fault, failed⟩
  · rw [done]
    rcases tail next inside with ⟨also, last, finished, more, within⟩ | ⟨fails, fault, failed⟩
    · exact .inl ⟨⟨holds, also⟩, last, finished, by rw [more, appended, List.append_assoc], within⟩
    · exact .inr ⟨fun both => fails both.2, fault, failed⟩
  · rw [failed]
    exact .inr ⟨fun both => fails both.1, fault, rfl⟩

theorem congr {action : BitWriting} {one two : Prop} {bits rest : List Bool}
    (emitted : Emits action one bits) (same : one ↔ two) (equal : one → bits = rest) :
    Emits action two rest := by
  intro writer started
  rcases emitted writer started with ⟨holds, next, done, appended, inside⟩ | ⟨fails, failed⟩
  · exact .inl ⟨same.mp holds, next, done, by rw [appended, equal holds], inside⟩
  · exact .inr ⟨fun holds => fails (same.mpr holds), failed⟩

theorem writeBit (bit : Bool) : Emits (BitWriting.writeBit bit) True [bit] := by
  intro writer started
  obtain ⟨appended, inside⟩ := BitWriter.writeBit_bits started bit
  exact .inl ⟨trivial, _, rfl, appended, inside⟩

theorem writeBits (bits : UInt64) {count : Nat} (inside : count ≤ 64) :
    Emits (BitWriting.writeBits bits count) (bits.toNat < 2 ^ count) (toBits count bits.toNat) := by
  intro writer started
  have positive : 0 < 2 ^ count := Nat.two_pow_pos count
  have bounded := bits.toNat_lt
  unfold BitWriting.writeBits
  rw [Nat.min_eq_left inside]
  by_cases small : bits.toNat < 2 ^ count
  · rw [if_neg (by omega)]
    obtain ⟨appended, within⟩ := BitWriter.writeLowBits_bits inside started
    exact .inl ⟨small, _, rfl, appended, within⟩
  · have narrow : count ≠ 64 := by
      intro whole
      rw [whole] at small
      exact small bounded
    rw [if_pos ⟨narrow, by omega⟩]
    exact .inr ⟨small, _, rfl⟩

theorem writeAll (bytes : Bytes) : Emits (BitWriting.writeAll bytes) True (bytesBits bytes) := by
  intro writer started
  unfold BitWriting.writeAll
  split
  · rename_i aligned
    have zero : writer.bitPos = 0 := by
      rw [BitWriter.isAligned, beq_iff_eq] at aligned
      omega
    refine .inl ⟨trivial, _, rfl, ?_, started⟩
    simp only [BitWriter.bits, zero, toBits, bytesBits_append, List.append_nil]
  · obtain ⟨appended, inside⟩ := BitWriter.writeBytes_bits bytes started
    exact .inl ⟨trivial, _, rfl, appended, inside⟩

theorem writeU48LE (number : UInt64) :
    Emits (BitWriting.writeU48LE number) (number.toNat < 2 ^ 48)
      (bytesBits (toBytesLE 6 number.toNat)) := by
  intro writer started
  unfold BitWriting.writeU48LE
  by_cases small : number.toNat < 2 ^ 48
  · rw [if_pos small]
    rcases writeAll (toBytesLE 6 number.toNat) writer started with ⟨_, written⟩ | ⟨impossible, _⟩
    · exact .inl ⟨small, written⟩
    · exact absurd trivial impossible
  · rw [if_neg small]
    exact .inr ⟨small, _, rfl⟩

end Emits

/-- Aligning fills the byte at hand with zeros. -/
theorem align_bits {writer : BitWriter} (started : writer.bitPos < 8) :
    ∃ next, align writer = .ok ((), next) ∧ next.bitPos = 0 ∧
      next.bits = writer.bits ++ List.replicate ((8 - writer.bitPos) % 8) false := by
  unfold align BitWriter.isAligned
  by_cases aligned : writer.bitPos = 0
  · rw [if_pos (by rw [aligned]; rfl)]
    refine ⟨writer, rfl, aligned, ?_⟩
    rw [aligned]
    exact (List.append_nil _).symm
  · have place : writer.bitPos % 8 = writer.bitPos := Nat.mod_eq_of_lt started
    have zeros : toBits (8 - writer.bitPos) 0 = List.replicate ((8 - writer.bitPos) % 8) false := by
      rw [Nat.mod_eq_of_lt (by omega), toBits_zero]
    rw [if_neg (by rw [place, beq_iff_eq]; exact aligned), place]
    rcases Emits.writeBits 0 (show 8 - writer.bitPos ≤ 64 by omega) writer started with
      ⟨_, next, done, appended, inside⟩ | ⟨impossible, _⟩
    · refine ⟨next, done, ?_, ?_⟩
      · have lengths := congrArg List.length appended
        simp only [BitWriter.bits, List.length_append, length_bytesBits, length_toBits] at lengths
        omega
      · rw [appended, ← zeros]
        rfl
    · exact absurd (Nat.two_pow_pos _) impossible

/-- An action whose bits fill whole bytes writes those bytes. -/
theorem finish_eq_ok_iff {action : BitWriting} {condition : Prop} {bytes : Bytes}
    (emitted : Emits action condition (bytesBits bytes)) {result : Bytes} :
    finish action = .ok result ↔ condition ∧ result = bytes := by
  have run : finish action = (do
      let ((), writer) ← action BitWriter.new
      let ((), last) ← align writer
      return last.written) := by
    change ((action BitWriter.new >>= fun pair => align pair.2) >>= _) = _
    cases action BitWriter.new <;> rfl
  rw [run]
  rcases emitted BitWriter.new (Nat.zero_lt_succ 7) with
    ⟨holds, next, done, appended, inside⟩ | ⟨fails, fault, failed⟩
  · have start : BitWriter.new.bits = [] := rfl
    rw [start, List.nil_append] at appended
    have lengths := congrArg List.length appended
    rw [BitWriter.bits, List.length_append, length_bytesBits, length_toBits, length_bytesBits]
      at lengths
    have zero : next.bitPos = 0 := by omega
    have same : next.written = bytes := by
      rw [BitWriter.bits, zero, toBits, List.append_nil] at appended
      exact bytesBits_injective appended
    have aligned : align next = .ok ((), next) := by
      unfold align BitWriter.isAligned
      rw [zero]
      rfl
    rw [done]
    change (align next >>= _) = _ ↔ _
    rw [aligned]
    change Except.ok next.written = _ ↔ _
    rw [same, Except.ok.injEq]
    exact ⟨fun equal => ⟨holds, equal.symm⟩, fun both => both.2.symm⟩
  · rw [failed]
    constructor
    · intro impossible
      cases impossible
    · exact fun both => absurd both.1 fails

end BitWriting

end ScuffleVideo.Wire
