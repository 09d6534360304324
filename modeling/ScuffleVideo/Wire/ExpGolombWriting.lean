import ScuffleVideo.Wire.BitRoundTrip
import ScuffleVideo.Wire.Walk

/-!
# Writing exponential Golomb codes

The writer halves the successor of a number until one is left, writes a zero for every halving and
then the successor.  Numbers written one after the other, from any place inside a byte, are read
back by the matching calls.  The reader itself accepts more than the writer writes: it keeps the
lowest 64 bits of a code that is longer than any written one.
-/

namespace ScuffleVideo.Wire

/-- A number is a one and the bits behind it. -/
theorem toBits_leading {number : Nat} (positive : 0 < number) :
    toBits (Nat.log2 number + 1) number = [true] ++ toBits (Nat.log2 number) number := by
  have low := Nat.log2_self_le (show number ≠ 0 by omega)
  have high := Nat.lt_log2_self (n := number)
  have one : number / 2 ^ Nat.log2 number = 1 := by
    apply Nat.div_eq_of_lt_le
    · rw [Nat.one_mul]
      exact low
    · rw [Nat.pow_succ] at high
      omega
  rw [toBits_succ, one]
  rfl

namespace BitWriting

/-! ## Writing -/

/-- The result of unsigned arithmetic of a width. -/
def unsigned (checks : OverflowChecks) (width : Nat) (value : Int) : Except IoFault Nat :=
  if 0 ≤ value ∧ value < 2 ^ width then .ok value.toNat
  else match checks with
    | .on => .error .panic
    | .off => .ok (value % 2 ^ width).toNat

/-- The result of signed 64-bit arithmetic. -/
def signed (checks : OverflowChecks) (value : Int) : Except IoFault Int :=
  if -2 ^ 63 ≤ value ∧ value < 2 ^ 63 then .ok value
  else match checks with
    | .on => .error .panic
    | .off => .ok (value.bmod (2 ^ 64))

/-- The halvings until one is left, in a byte.  A number of 64 bits has 63 at most. -/
def countHalvings (checks : OverflowChecks) : Nat → Nat → Nat → Except IoFault Nat
  | 0, _, _ => .error .unfinished
  | rounds + 1, number, zeros =>
      if 1 < number then do
        let zeros ← unsigned checks 8 (zeros + 1)
        countHalvings checks rounds (number / 2) zeros
      else .ok zeros

def writeZeros : Nat → BitWriting
  | 0 => pure ()
  | count + 1 => do
      writeBit false
      writeZeros count

def writeExpGolomb (checks : OverflowChecks) (input : UInt64) : BitWriting := do
  let number ← unsigned checks 64 (input.toNat + 1)
  let leadingZeros ← countHalvings checks 64 number 0
  writeZeros leadingZeros
  let successor ← unsigned checks 64 (input.toNat + 1)
  let count ← unsigned checks 8 (leadingZeros + 1)
  writeBits (UInt64.ofNat successor) count

/-- The unsigned number to write.  The negation is the one of a signed number. -/
def signedCode (checks : OverflowChecks) (number : Int64) : Except IoFault Nat :=
  if number.toInt ≤ 0 then do
    let negated ← signed checks (-number.toInt)
    unsigned checks 64 (negated % 2 ^ 64 * 2)
  else do
    let doubled ← unsigned checks 64 (number.toInt * 2)
    unsigned checks 64 (doubled - 1)

def writeSignedExpGolomb (checks : OverflowChecks) (number : Int64) : BitWriting := do
  let code ← signedCode checks number
  writeExpGolomb checks (UInt64.ofNat code)

/-! ## What is written -/

theorem unsigned_of_lt (checks : OverflowChecks) {width number : Nat} {value : Int}
    (same : value = number) (small : number < 2 ^ width) : unsigned checks width value = .ok number := by
  subst same
  have large : (number : Int) < 2 ^ width := by exact_mod_cast small
  unfold unsigned
  rw [if_pos ⟨Int.natCast_nonneg number, large⟩, Int.toNat_natCast]

/-- Arithmetic that has a result goes on with it. -/
theorem bind_unsigned {α : Type} {calculation : Except IoFault α} {value : α}
    (done : calculation = .ok value) (next : α → BitWriting) :
    (do next (← calculation) : BitWriting) = next value := by
  subst done
  rfl

theorem countHalvings_eq (checks : OverflowChecks) {rounds number zeros : Nat} (positive : 0 < number)
    (enough : Nat.log2 number < rounds) (small : zeros + Nat.log2 number < 2 ^ 8) :
    countHalvings checks rounds number zeros = .ok (zeros + Nat.log2 number) := by
  induction rounds generalizing number zeros with
  | zero => omega
  | succ rounds ih =>
      rw [Nat.log2_def] at enough small ⊢
      unfold countHalvings
      by_cases more : 2 ≤ number
      · rw [if_pos more] at enough small ⊢
        rw [if_pos (show 1 < number from more),
          unsigned_of_lt checks (show (zeros : Int) + 1 = (zeros + 1 : Nat) from rfl) (by omega)]
        change countHalvings checks rounds (number / 2) (zeros + 1) = _
        rw [ih (by omega) (by omega) (by omega)]
        congr 1
        omega
      · rw [if_neg more, if_neg (show ¬1 < number from more)]
        rfl

theorem Emits.writeZeros (count : Nat) :
    Emits (writeZeros count) True (List.replicate count false) := by
  induction count with
  | zero => exact Emits.skip
  | succ count ih =>
      exact ((Emits.writeBit false).seq ih).congr (and_self_iff) fun _ => rfl

theorem Emits.writeExpGolomb (checks : OverflowChecks) {input : UInt64}
    (small : input.toNat + 1 < 2 ^ 64) :
    Emits (writeExpGolomb checks input) True (ueBits input.toNat) := by
  have few : Nat.log2 (input.toNat + 1) < 64 := (Nat.log2_lt (Nat.succ_ne_zero _)).mpr small
  have successor := unsigned_of_lt checks (show (input.toNat : Int) + 1 = (input.toNat + 1 : Nat) from rfl)
    small
  have halved := countHalvings_eq checks (Nat.succ_pos input.toNat) few
    (show 0 + Nat.log2 (input.toNat + 1) < 2 ^ 8 by omega)
  rw [Nat.zero_add] at halved
  have width := unsigned_of_lt checks
    (show (Nat.log2 (input.toNat + 1) : Int) + 1 = (Nat.log2 (input.toNat + 1) + 1 : Nat) from rfl)
    (show Nat.log2 (input.toNat + 1) + 1 < 2 ^ 8 by omega)
  have written := Emits.writeBits (UInt64.ofNat (input.toNat + 1))
    (show Nat.log2 (input.toNat + 1) + 1 ≤ 64 by omega)
  rw [UInt64.toNat_ofNat_of_lt' small, toBits_leading (Nat.succ_pos _)] at written
  unfold BitWriting.writeExpGolomb
  rw [bind_unsigned successor, bind_unsigned halved]
  have both := (Emits.writeZeros (Nat.log2 (input.toNat + 1))).seq written
  rw [successor, width]
  exact both.congr (iff_true_intro ⟨trivial, Nat.lt_log2_self⟩) fun _ => rfl

theorem signedCode_eq (checks : OverflowChecks) {number : Int64} (low : -2 ^ 63 < number.toInt) :
    signedCode checks number = .ok (seCode number.toInt) ∧ seCode number.toInt + 1 < 2 ^ 64 := by
  have high := number.toInt_lt
  have small := seCode_succ_lt low high
  refine ⟨?_, small⟩
  unfold signedCode
  by_cases positive : 0 < number.toInt
  · have twice : number.toInt * 2 = (number.toInt * 2).toNat := by omega
    have code : ((number.toInt * 2).toNat : Int) - 1 = seCode number.toInt := by
      rw [seCode, if_pos positive]
      omega
    rw [if_neg (by omega), unsigned_of_lt checks twice (by omega)]
    exact unsigned_of_lt checks code (by omega)
  · have negated : signed checks (-number.toInt) = .ok (-number.toInt) := if_pos ⟨by omega, by omega⟩
    have code : -number.toInt % 2 ^ 64 * 2 = seCode number.toInt := by
      rw [seCode, if_neg positive]
      omega
    rw [if_pos (by omega), negated]
    exact unsigned_of_lt checks code (by omega)

theorem Emits.writeSignedExpGolomb (checks : OverflowChecks) {number : Int64}
    (low : -2 ^ 63 < number.toInt) :
    Emits (writeSignedExpGolomb checks number) True (seBits number.toInt) := by
  obtain ⟨coded, small⟩ := signedCode_eq checks low
  have code : (UInt64.ofNat (seCode number.toInt)).toNat = seCode number.toInt :=
    UInt64.toNat_ofNat_of_lt' (Nat.lt_of_succ_lt small)
  rw [← code] at small
  have written := Emits.writeExpGolomb checks small
  rw [code] at written
  unfold BitWriting.writeSignedExpGolomb
  rw [bind_unsigned coded]
  exact written

end BitWriting

/-! ## Numbers written and read back -/

/-- A number to write, and the call that writes it. -/
inductive ExpGolombNumber where
  | unsigned (number : UInt64)
  | signed (number : Int64)
  deriving DecidableEq, Repr

namespace ExpGolombNumber

def write (checks : OverflowChecks) : ExpGolombNumber → BitWriting
  | .unsigned number => BitWriting.writeExpGolomb checks number
  | .signed number => BitWriting.writeSignedExpGolomb checks number

/-- The matching read. -/
def read (checks : OverflowChecks) : ExpGolombNumber → BitReader ExpGolombNumber
  | .unsigned _ => do return .unsigned (← BitReader.readExpGolomb checks)
  | .signed _ => do return .signed (Int64.ofInt (← BitReader.readSignedExpGolomb checks))

def writeSequence (checks : OverflowChecks) : List ExpGolombNumber → BitWriting
  | [] => pure ()
  | number :: numbers => do
      number.write checks
      writeSequence checks numbers

def readSequence (checks : OverflowChecks) : List ExpGolombNumber → BitReader (List ExpGolombNumber)
  | [] => pure []
  | number :: numbers => do
      let value ← number.read checks
      let values ← readSequence checks numbers
      return value :: values

/-- Below the largest unsigned number and above the smallest signed one. -/
def Writable : ExpGolombNumber → Prop
  | .unsigned number => number.toNat < 2 ^ 64 - 1
  | .signed number => -2 ^ 63 < number.toInt

instance (number : ExpGolombNumber) : Decidable number.Writable := by
  cases number <;> exact inferInstanceAs (Decidable (_ < _))

def bits : ExpGolombNumber → List Bool
  | .unsigned number => ueBits number.toNat
  | .signed number => seBits number.toInt

theorem emits_write (checks : OverflowChecks) {number : ExpGolombNumber} (writable : number.Writable) :
    BitWriting.Emits (number.write checks) True number.bits := by
  cases number with
  | unsigned number =>
      have small : number.toNat + 1 < 2 ^ 64 := by
        have below : number.toNat < 2 ^ 64 - 1 := writable
        omega
      exact BitWriting.Emits.writeExpGolomb checks small
  | signed number => exact BitWriting.Emits.writeSignedExpGolomb checks writable

theorem emits_writeSequence (checks : OverflowChecks) {numbers : List ExpGolombNumber}
    (writable : ∀ number ∈ numbers, number.Writable) :
    BitWriting.Emits (writeSequence checks numbers) True (numbers.flatMap bits) := by
  induction numbers with
  | nil => exact BitWriting.Emits.skip
  | cons number numbers ih =>
      rw [List.forall_mem_cons] at writable
      have both := (emits_write checks writable.1).seq (ih writable.2)
      exact both.congr and_self_iff fun _ => (List.flatMap_cons).symm

theorem decodes_read (checks : OverflowChecks) {number : ExpGolombNumber} (writable : number.Writable) :
    BitReader.Decodes (number.read checks) number.bits number := by
  cases number with
  | unsigned number =>
      have small : number.toNat + 1 < 2 ^ 64 := by
        have below : number.toNat < 2 ^ 64 - 1 := writable
        omega
      have decodes := (BitReader.Decodes.readExpGolomb checks small).map ExpGolombNumber.unsigned
      rw [UInt64.ofNat_toNat] at decodes
      exact decodes
  | signed number =>
      have decodes := (BitReader.Decodes.readSignedExpGolomb checks writable number.toInt_lt).map
        fun value => ExpGolombNumber.signed (Int64.ofInt value)
      rw [Int64.ofInt_toInt] at decodes
      exact decodes

theorem decodes_readSequence (checks : OverflowChecks) {numbers : List ExpGolombNumber}
    (writable : ∀ number ∈ numbers, number.Writable) :
    BitReader.Decodes (readSequence checks numbers) (numbers.flatMap bits) numbers := by
  induction numbers with
  | nil => exact BitReader.Decodes.pure []
  | cons number numbers ih =>
      rw [List.forall_mem_cons] at writable
      rw [List.flatMap_cons]
      apply (decodes_read checks writable.1).bind
      exact (ih writable.2).finish (BitReader.Decodes.pure _)

/-- Numbers written one after the other, behind whatever a writer has been given, are read back by
the matching calls, wherever their bits stand.  No arithmetic of the writer or the reader
overflows, and an unsigned number takes as many bits as its code has. -/
theorem read_written_numbers (checks : OverflowChecks) (numbers : List ExpGolombNumber)
    (writable : ∀ number ∈ numbers, number.Writable) (writer : BitWriter)
    (started : writer.bitPos < 8) :
    ∃ next last, writeSequence checks numbers writer = .ok ((), next) ∧
      next.bits = writer.bits ++ numbers.flatMap bits ∧
      (∀ number, .unsigned number ∈ numbers →
        (bits (.unsigned number)).length = 2 * Nat.log2 (number.toNat + 1) + 1) ∧
      BitWriting.align next = .ok ((), last) ∧
      (∃ state stop, BitReader.run (do
          BitReader.skipBits writer.bits.length
          readSequence checks numbers) last.written 0 = .ok ((numbers, state), stop)) ∧
      ∀ (buffer : Bytes) (rest : List Bool) (position : Nat) (state : BitState),
        bytesBits buffer = next.bits ++ rest →
        BitReader.Standing buffer position state writer.bits.length →
        ∃ final stop, readSequence checks numbers state buffer position =
            .ok ((numbers, final), stop) ∧
          BitReader.Standing buffer stop final (writer.bits.length + (numbers.flatMap bits).length) := by
  have decodes := decodes_readSequence checks writable
  rcases emits_writeSequence checks writable writer started with
    ⟨_, next, written, appended, inside⟩ | ⟨impossible, _⟩
  · obtain ⟨last, filled, aligned, zeros⟩ := BitWriting.align_bits inside
    have whole : bytesBits last.written = last.bits := by
      rw [BitWriter.bits, aligned]
      exact (List.append_nil _).symm
    rw [zeros, appended] at whole
    refine ⟨next, last, written, appended, fun number _ => length_ueBits _, filled, ?_, ?_⟩
    · have skipped : BitReader.Decodes (do
          BitReader.skipBits writer.bits.length
          readSequence checks numbers) _ numbers :=
        (BitReader.Decodes.skipBits rfl).bind decodes
      obtain ⟨state, stop, done, _⟩ := skipped.run whole
      exact ⟨state, stop, done⟩
    · intro buffer rest position state found standing
      rw [appended, List.append_assoc] at found
      exact decodes _ _ _ _ _ found standing
  · exact absurd trivial impossible

/-- A flag, and the ends of both ranges behind it. -/
theorem read_written_extremes :
    (∀ number ∈ [unsigned 0, unsigned 0xFFFFFFFFFFFFFFFE, signed 0x7FFFFFFFFFFFFFFF,
        signed (-0x7FFFFFFFFFFFFFFF)], number.Writable) ∧
      (BitWriter.new.writeBit true).bitPos < 8 ∧
      ∃ next last, writeSequence .on [unsigned 0, unsigned 0xFFFFFFFFFFFFFFFE,
          signed 0x7FFFFFFFFFFFFFFF, signed (-0x7FFFFFFFFFFFFFFF)] (BitWriter.new.writeBit true) =
          .ok ((), next) ∧
        BitWriting.align next = .ok ((), last) ∧
        ∃ state stop, BitReader.run (do
            BitReader.skipBits 1
            readSequence .on [unsigned 0, unsigned 0xFFFFFFFFFFFFFFFE,
              signed 0x7FFFFFFFFFFFFFFF, signed (-0x7FFFFFFFFFFFFFFF)]) last.written 0 =
          .ok (([unsigned 0, unsigned 0xFFFFFFFFFFFFFFFE, signed 0x7FFFFFFFFFFFFFFF,
            signed (-0x7FFFFFFFFFFFFFFF)], state), stop) := by
  have writable : ∀ number ∈ [unsigned 0, unsigned 0xFFFFFFFFFFFFFFFE, signed 0x7FFFFFFFFFFFFFFF,
      signed (-0x7FFFFFFFFFFFFFFF)], number.Writable := by decide
  have started : (BitWriter.new.writeBit true).bitPos < 8 := by decide
  obtain ⟨next, last, written, _, _, filled, read, _⟩ :=
    read_written_numbers .on _ writable _ started
  exact ⟨writable, started, next, last, written, filled, read⟩

end ExpGolombNumber

/-! ## What the reader accepts -/

namespace BitReader

open BitCursor (asU64)

variable {buffer : Bytes} {position bit : Nat} {state : BitState}

/-- The number that the one in front and the bits behind it leave in 64 bits. -/
def collected (buffer : Bytes) (bit : Nat) : Nat :=
  (2 ^ zerosAt buffer bit +
    ofBits (slice buffer (bit + (zerosAt buffer bit + 1)) (zerosAt buffer bit))) % 2 ^ 64

theorem readExpGolomb_cases (standing : Standing buffer position state bit) :
    (zerosAt buffer bit < 2 ^ 31 ∧ 2 * zerosAt buffer bit < 8 * buffer.length - bit ∧
      0 < collected buffer bit ∧ ∃ last stop,
        readExpGolomb .on state buffer position =
          .ok ((UInt64.ofNat (collected buffer bit - 1), last), stop) ∧
        Standing buffer stop last (bit + (2 * zerosAt buffer bit + 1))) ∨
    (zerosAt buffer bit < 2 ^ 31 ∧ 2 * zerosAt buffer bit < 8 * buffer.length - bit ∧
      collected buffer bit = 0 ∧ readExpGolomb .on state buffer position = .error .panic) ∨
    (zerosAt buffer bit < 2 ^ 31 ∧ 8 * buffer.length - bit ≤ 2 * zerosAt buffer bit ∧
      ∃ fault, readExpGolomb .on state buffer position = .error fault ∧ fault.isReturned = true) ∨
    (2 ^ 31 ≤ zerosAt buffer bit ∧ readExpGolomb .on state buffer position = .error .panic) := by
  unfold readExpGolomb
  rcases leadingZeros_cases standing with ⟨few, one, middle, reached, counted, there⟩ |
    ⟨few, none, fault, failed, returned⟩ | ⟨many, failed⟩
  · rw [sequence_ok counted, Int.toNat_natCast]
    rcases Takes.readBitsInto (zerosAt buffer bit) 1 _ _ _ _ there with
      ⟨enough, last, stop, read, behind⟩ | ⟨short, fault, failed⟩
    · have bound : 2 * zerosAt buffer bit < 8 * buffer.length - bit := by
        unfold Enough at enough
        omega
      have number : (UInt64.ofNat ((slice buffer (bit + (zerosAt buffer bit + 1))
          (zerosAt buffer bit)).foldl (fun total bit => total * 2 + bit.toNat)
            (1 : UInt64).toNat)).toNat = collected buffer bit := by
        rw [foldl_bits, length_slice enough, UInt64.toNat_ofNat', collected]
        change (1 * _ + _) % _ = _
        rw [Nat.one_mul]
      rw [sequence_ok read, number]
      have place : bit + (zerosAt buffer bit + 1) + zerosAt buffer bit =
          bit + (2 * zerosAt buffer bit + 1) := by omega
      rw [place] at behind
      rcases Nat.eq_zero_or_pos (collected buffer bit) with zero | positive
      · refine .inr (.inl ⟨few, bound, zero, ?_⟩)
        rw [zero, asU64_panics (by decide)]
        rfl
      · have small : collected buffer bit - 1 < 2 ^ 64 := by
          have inside : collected buffer bit < 2 ^ 64 := Nat.mod_lt _ (by decide)
          omega
        refine .inl ⟨few, bound, positive, last, stop, ?_, behind⟩
        rw [between_bind (asU64_inside .on (by omega) small)]
        rfl
    · refine .inr (.inr (.inl ⟨few, ?_, fault, sequence_error failed, ?_⟩))
      · unfold Enough at short
        omega
      · exact (Returns.readBitsInto (zerosAt buffer bit) 1).returned middle |>.returned _ _ _ failed
  · refine .inr (.inr (.inl ⟨few, ?_, fault, sequence_error failed, returned⟩))
    omega
  · exact .inr (.inr (.inr ⟨many, sequence_error failed⟩))

theorem take_zeros {bits : List Bool} (one : (bits.takeWhile not).length < bits.length) :
    bits.take ((bits.takeWhile not).length + 1) =
      List.replicate (bits.takeWhile not).length false ++ [true] := by
  induction bits with
  | nil => exact absurd one (Nat.not_lt_zero _)
  | cons bit bits ih =>
      cases bit with
      | true => rfl
      | false =>
          rw [List.takeWhile_cons_of_pos rfl, List.length_cons, List.length_cons] at one
          rw [List.takeWhile_cons_of_pos rfl, List.length_cons, List.take_succ_cons,
            ih (Nat.lt_of_succ_lt_succ one), List.replicate_succ, List.cons_append]

/-- What stands in front of a place, the zeros and the one behind it, and the rest. -/
theorem zeros_in_front (one : zerosAt buffer bit < 8 * buffer.length - bit) :
    bytesBits buffer = (bytesBits buffer).take bit ++
      ((List.replicate (zerosAt buffer bit) false ++ [true]) ++
        ((bytesBits buffer).drop bit).drop (zerosAt buffer bit + 1)) := by
  have zeros : ((bytesBits buffer).drop bit).take (zerosAt buffer bit + 1) =
      List.replicate (zerosAt buffer bit) false ++ [true] :=
    take_zeros (by rw [List.length_drop, length_bytesBits]; exact one)
  rw [← zeros, List.take_append_drop, List.take_append_drop]

/-- Arithmetic reads nothing. -/
theorem asI32_still {checks : OverflowChecks} {value next : Int} {buffer : Bytes} {position stop : Nat}
    (stepped : asI32 checks value buffer position = .ok (next, stop)) : stop = position := by
  unfold asI32 at stepped
  split at stepped
  · cases stepped
    rfl
  · cases checks with
    | on => cases stepped
    | off =>
        cases stepped
        rfl

/-- A reader that moved by few bits has read as many behind the one as there are zeros in front. -/
theorem standing_of_readExpGolomb {checks : OverflowChecks} {number : UInt64} {last : BitState}
    {stop : Nat} (standing : Standing buffer position state bit)
    (done : readExpGolomb checks state buffer position = .ok ((number, last), stop)) :
    ∃ count, Standing buffer stop last (bit + count) ∧ zerosAt buffer bit < 8 * buffer.length - bit ∧
      (count < 2 ^ 31 → count = 2 * zerosAt buffer bit + 1) := by
  obtain ⟨zeros, middle, reached, counted, more⟩ := sequence_ok_iff.mp done
  obtain ⟨result, final, place, read, subtracted⟩ := sequence_ok_iff.mp more
  have tallied := counted
  unfold leadingZeros at tallied
  rw [countZeros_eq_tally] at tallied
  obtain ⟨one, behind⟩ := standing_of_tally (fun _ _ _ _ _ stepped => asI32_still stepped) standing
    tallied
  obtain ⟨_, enough, ended⟩ := (Takes.readBitsInto zeros.toNat 1).of_ok behind read
  have moved : stop = place ∧ last = final := by
    obtain ⟨difference, again, same, taken, returned⟩ := sequence_ok_iff.mp subtracted
    cases returned
    obtain ⟨value, unmoved, calculated, returned⟩ := Reader.bind_eq_ok_iff.mp taken
    cases returned
    exact ⟨(BitCursor.asU64_eq_ok calculated).1, rfl⟩
  obtain ⟨rfl, rfl⟩ := moved
  rw [Nat.add_assoc] at ended
  refine ⟨_, ended, one, fun near => ?_⟩
  -- So few zeros are counted without overflow.
  have start : ((bytesBits buffer).take bit).length = bit :=
    List.length_take_of_le (by rw [length_bytesBits]; omega)
  rw [← start] at standing
  obtain ⟨_, _, zerosRead, _⟩ := Decodes.leadingZeros checks (show zerosAt buffer bit < 2 ^ 31 by omega)
    _ _ _ _ _ (zeros_in_front one) standing
  cases zerosRead.symm.trans counted
  rw [Int.toNat_natCast]
  omega

/-- At a place the reader does not crash, and the bits that it takes for a number are those that the
writer writes for it. -/
def AcceptsWritten (buffer : Bytes) (position : Nat) (state : BitState) (bit : Nat) : Prop :=
  ¬Crashes (readExpGolomb .on state buffer position) ∧
    ∀ number last stop, readExpGolomb .on state buffer position = .ok ((number, last), stop) →
      ∃ count, Enough buffer bit count ∧ Standing buffer stop last (bit + count) ∧
        ∀ writer : BitWriter, writer.bitPos < 8 → ∃ next,
          BitWriting.writeExpGolomb .on number writer = .ok ((), next) ∧
          next.bits = writer.bits ++ slice buffer bit count

/-- Zeros, a one and as many bits are the code of the number that they denote. -/
theorem ueBits_of_digits (digits : List Bool) :
    ueBits (2 ^ digits.length + ofBits digits - 1) =
      List.replicate digits.length false ++ ([true] ++ digits) := by
  have small := ofBits_lt digits
  have positive := Nat.two_pow_pos digits.length
  have successor : 2 ^ digits.length + ofBits digits - 1 + 1 = 2 ^ digits.length + ofBits digits := by
    omega
  have width : Nat.log2 (2 ^ digits.length + ofBits digits) = digits.length := by
    rw [Nat.log2_eq_iff (by omega), Nat.pow_succ]
    omega
  have joint := toBits_append 1 digits.length 1 (ofBits digits) small
  rw [toBits_ofBits, Nat.one_mul, Nat.add_comm 1 digits.length] at joint
  have split := toBits_leading (show 0 < 2 ^ digits.length + ofBits digits by omega)
  rw [width] at split
  rw [ueBits, successor, width, ← split, ← joint]
  rfl

/-- The bits of a code that is there. -/
theorem slice_code (present : 2 * zerosAt buffer bit < 8 * buffer.length - bit) :
    slice buffer bit (2 * zerosAt buffer bit + 1) =
      ueBits (2 ^ zerosAt buffer bit +
        ofBits (slice buffer (bit + (zerosAt buffer bit + 1)) (zerosAt buffer bit)) - 1) := by
  have length : (slice buffer (bit + (zerosAt buffer bit + 1)) (zerosAt buffer bit)).length =
      zerosAt buffer bit := length_slice (.inr (by omega))
  have digits := ueBits_of_digits (slice buffer (bit + (zerosAt buffer bit + 1)) (zerosAt buffer bit))
  rw [length] at digits
  have front : slice buffer bit (zerosAt buffer bit + 1) =
      List.replicate (zerosAt buffer bit) false ++ [true] :=
    take_zeros (show zerosAt buffer bit < _ by rw [List.length_drop, length_bytesBits]; omega)
  rw [digits, show 2 * zerosAt buffer bit + 1 = zerosAt buffer bit + 1 + zerosAt buffer bit by omega,
    slice_add, front, List.append_assoc]

/-- Below 64 zeros the one in front is kept. -/
theorem collected_of_few (few : zerosAt buffer bit < 64)
    (present : 2 * zerosAt buffer bit < 8 * buffer.length - bit) :
    collected buffer bit = 2 ^ zerosAt buffer bit +
      ofBits (slice buffer (bit + (zerosAt buffer bit + 1)) (zerosAt buffer bit)) := by
  have small := ofBits_lt (slice buffer (bit + (zerosAt buffer bit + 1)) (zerosAt buffer bit))
  rw [length_slice (.inr (by omega))] at small
  have power : 2 ^ (zerosAt buffer bit + 1) ≤ 2 ^ 64 := Nat.pow_le_pow_right (by decide) few
  rw [Nat.pow_succ] at power
  exact Nat.mod_eq_of_lt (by omega)

/-- A number that is read is written in the bits it was read from if there were fewer than 64 zeros in
front of them: no number has a longer code. -/
theorem acceptsWritten_of_ok {last : BitState} {stop : Nat} (positive : 0 < collected buffer bit)
    (present : 2 * zerosAt buffer bit < 8 * buffer.length - bit)
    (read : readExpGolomb .on state buffer position =
      .ok ((UInt64.ofNat (collected buffer bit - 1), last), stop))
    (behind : Standing buffer stop last (bit + (2 * zerosAt buffer bit + 1))) :
    AcceptsWritten buffer position state bit ↔ zerosAt buffer bit < 64 := by
  have inside : collected buffer bit < 2 ^ 64 := Nat.mod_lt _ (by decide)
  have number : (UInt64.ofNat (collected buffer bit - 1)).toNat = collected buffer bit - 1 :=
    UInt64.toNat_ofNat_of_lt' (show _ < 2 ^ 64 by omega)
  have emits := @BitWriting.Emits.writeExpGolomb .on (UInt64.ofNat (collected buffer bit - 1))
    (by rw [number]; omega)
  rw [number] at emits
  unfold AcceptsWritten
  rw [read]
  constructor
  · rintro ⟨_, accepted⟩
    obtain ⟨count, enough, there, written⟩ := accepted _ _ _ rfl
    have consumed : count = 2 * zerosAt buffer bit + 1 := by
      have same := there.unique behind
      omega
    -- What is written is short, and what was read is long.
    obtain ⟨next, done, appended⟩ := written BitWriter.new (by decide)
    rcases emits BitWriter.new (by decide) with ⟨_, other, also, bits, _⟩ | ⟨impossible, _⟩
    · cases done.symm.trans also
      have code := List.append_cancel_left (appended.symm.trans bits)
      have lengths := congrArg List.length code
      rw [length_slice enough, length_ueBits, consumed,
        show collected buffer bit - 1 + 1 = collected buffer bit by omega] at lengths
      have short := (Nat.log2_lt (show collected buffer bit ≠ 0 by omega)).mpr inside
      omega
    · exact absurd trivial impossible
  · intro narrow
    refine ⟨not_crashes_ok _, ?_⟩
    rintro _ _ _ ⟨⟩
    refine ⟨_, .inr (by omega), behind, fun writer started => ?_⟩
    rcases emits writer started with ⟨_, next, done, appended, _⟩ | ⟨impossible, _⟩
    · exact ⟨next, done, by rw [appended, slice_code present, collected_of_few narrow present]⟩
    · exact absurd trivial impossible

/-- The reader accepts what the writer writes, and nothing else, if there are fewer than 64 zeros in
front, or if it runs out of bits.  Otherwise the 64 bits of the number are too few, or the 31 of the
count. -/
theorem acceptsWritten_iff (standing : Standing buffer position state bit) :
    AcceptsWritten buffer position state bit ↔
      zerosAt buffer bit < 64 ∨
        (zerosAt buffer bit < 2 ^ 31 ∧ 8 * buffer.length - bit ≤ 2 * zerosAt buffer bit) := by
  rcases readExpGolomb_cases standing with ⟨few, present, positive, last, stop, read, behind⟩ |
    ⟨few, present, zero, failed⟩ | ⟨few, absent, fault, failed, returned⟩ | ⟨many, failed⟩
  · rw [acceptsWritten_of_ok positive present read behind]
    omega
  · refine iff_of_false (fun both => both.1 ⟨.panic, failed, rfl⟩) ?_
    rintro (narrow | ⟨_, absent⟩)
    · rw [collected_of_few narrow present] at zero
      have positive := Nat.two_pow_pos (zerosAt buffer bit)
      omega
    · omega
  · refine iff_of_true ⟨?_, ?_⟩ (.inr ⟨few, absent⟩)
    · rintro ⟨other, same, crashed⟩
      obtain rfl := Except.error.inj (failed.symm.trans same)
      rw [returned] at crashed
      cases crashed
    · intro number last stop read
      cases failed.symm.trans read
  · refine iff_of_false (fun both => both.1 ⟨.panic, failed, rfl⟩) ?_
    rintro (narrow | ⟨few, _⟩) <;> omega

/-- 64 zeros and a one, the 64 bits behind which are zeros. -/
def longCode : Bytes := [0, 0, 0, 0, 0, 0, 0, 0, 0x80, 0, 0, 0, 0, 0, 0, 0, 0]

/-- The one is shifted out and the subtraction underflows. -/
theorem longCode_crashes : ¬AcceptsWritten longCode 0 ⟨0, 0⟩ 0 := by
  intro accepted
  have failed : readExpGolomb .on ⟨0, 0⟩ longCode 0 = .error .panic := by decide +kernel
  exact accepted.1 ⟨.panic, failed, rfl⟩

/-- The largest number that is written is read. -/
theorem acceptsWritten_largest :
    Standing (List.replicate 7 0 ++ 1 :: List.replicate 8 0xFF) 0 ⟨0, 0⟩ 0 ∧
      AcceptsWritten (List.replicate 7 0 ++ 1 :: List.replicate 8 0xFF) 0 ⟨0, 0⟩ 0 :=
  ⟨Standing.start _, (acceptsWritten_iff (Standing.start _)).mpr (.inl (by decide +kernel))⟩

end BitReader

end ScuffleVideo.Wire
