import ScuffleVideo.Wire.BitReader

/-!
# Seeking in bits

Reads and seeks move a bit reader over a cursor.  Positions are 64-bit numbers, in
bytes for the cursor and in bits for the reader, and moves are signed ones.  A build
either traps the arithmetic that leaves these ranges or lets it wrap.

The abstract cursor is a bit of the buffer, and an operation moves it to its target.
A successful sequence of operations follows the abstract cursor as long as the
targets and the moves fit the numbers that hold them.
-/

namespace ScuffleVideo.Wire

/-- Where a seek starts counting. -/
inductive SeekFrom where
  | start (offset : UInt64)
  | current (offset : Int64)
  | fromEnd (offset : Int64)
  deriving DecidableEq, Repr

namespace BitCursor

open BitReader (isAligned updateByte slice Standing)

/-- The result of unsigned 64-bit arithmetic. -/
def asU64 (checks : OverflowChecks) (value : Int) : Reader IoFault Nat :=
  if 0 ≤ value ∧ value.toNat < 2 ^ 64 then pure value.toNat
  else match checks with
    | .on => Reader.fail .panic
    | .off => pure (value % 2 ^ 64).toNat

/-- The result of signed 64-bit arithmetic. -/
def asI64 (checks : OverflowChecks) (value : Int) : Reader IoFault Int :=
  if -2 ^ 63 ≤ value ∧ value < 2 ^ 63 then pure value
  else match checks with
    | .on => Reader.fail .panic
    | .off => pure (value.bmod (2 ^ 64))

/-- Set the cursor.  A position that is no unsigned 64-bit number is refused. -/
def seekTo (target : Int) : Reader IoFault Nat := fun _ _ =>
  if 0 ≤ target ∧ target.toNat < 2 ^ 64 then .ok (target.toNat, target.toNat)
  else .error (.invalidData "invalid seek to a negative or overflowing position")

/-- The byte that a seek of the cursor asks for. -/
def destination (buffer : Bytes) (position : Nat) : SeekFrom → Int
  | .start offset => offset.toNat
  | .current offset => position + offset.toInt
  | .fromEnd offset => buffer.length + offset.toInt

def seekCursor (place : SeekFrom) : Reader IoFault Nat := fun buffer position =>
  seekTo (destination buffer position place) buffer position

def bitStreamPosition (checks : OverflowChecks) : BitReader Nat := fun state => do
  let position ← Reader.tell
  let bits ← asU64 checks (position * 8)
  let behind ← asU64 checks (bits + (if isAligned state then 8 else state.bitPos : Nat))
  let bit ← asU64 checks (behind - 8)
  return (bit, state)

/-- Move the cursor to a whole byte and set the place inside it.  A byte that the move
begins is taken from the cursor. -/
def enterByte (checks : OverflowChecks) (byteMove : Int) (bitPos : Nat) : BitReader Nat :=
  fun state => do
    let position ← Reader.tell
    let byte ← seekTo (position + byteMove)
    let bits ← asU64 checks (byte * 8)
    let state := { state with bitPos := bitPos }
    if isAligned state then return (bits, state)
    else do
      let ((), state) ← updateByte state
      let bit ← asU64 checks (bits + bitPos)
      return (bit, state)

def seekBits (checks : OverflowChecks) (count : Int) : BitReader Nat := fun state =>
  if count = 0 then bitStreamPosition checks state
  else do
    let count ← asI64 checks (state.bitPos + count)
    let bitMove := count.tmod 8
    let byteMove := count.tdiv 8 - (if isAligned state then 0 else 1) - (if bitMove < 0 then 1 else 0)
    enterByte checks byteMove ((8 + bitMove) % 8).toNat state

/-- The seek of the reader, in bytes.  A relative one from inside a byte keeps the
place in the byte, and its result is rounded up. -/
def seek (checks : OverflowChecks) (place : SeekFrom) : BitReader Nat := fun state =>
  match place, isAligned state with
  | .current offset, false => do
      let count ← asI64 checks (offset.toInt * 8)
      let (bit, state) ← seekBits checks count state
      return ((bit + 7) / 8, state)
  | place, _ => do
      let position ← seekCursor place
      return (position, { state with bitPos := 0 })

inductive Operation where
  | readBit
  | readBits (count : UInt8)
  | read (count : Nat)
  | align
  | seekBits (count : Int64)
  | seek (place : SeekFrom)
  deriving DecidableEq, Repr

/-- What an operation returns. -/
inductive Outcome where
  | bit (value : Bool)
  | bits (number : UInt64)
  | bytes (data : Bytes)
  | aligned
  | position (number : Nat)
  deriving DecidableEq, Repr

def Operation.perform (checks : OverflowChecks) : Operation → BitReader Outcome
  | .readBit => do return .bit (← BitReader.readBit)
  | .readBits count => do return .bits (← BitReader.readBits count.toNat)
  | .read count => do return .bytes (← BitReader.read count)
  | .align => do
      BitReader.align
      return .aligned
  | .seekBits count => do return .position (← BitCursor.seekBits checks count.toInt)
  | .seek place => do return .position (← BitCursor.seek checks place)

def performAll (checks : OverflowChecks) : List Operation → BitReader (List Outcome)
  | [] => pure []
  | operation :: operations => do
      let outcome ← operation.perform checks
      let outcomes ← performAll checks operations
      return outcome :: outcomes

/-! ## The abstract cursor -/

/-- The bit that an operation moves to.  Bytes are read as far as there are whole
ones. -/
def Operation.target (buffer : Bytes) (bit : Nat) : Operation → Int
  | .readBit => bit + 1
  | .readBits count => bit + min count.toNat 64
  | .read count => bit + 8 * min count ((8 * buffer.length - bit) / 8)
  | .align => (bit + 7) / 8 * 8
  | .seekBits count => bit + count.toInt
  | .seek (.start offset) => 8 * offset.toNat
  | .seek (.current offset) => bit + 8 * offset.toInt
  | .seek (.fromEnd offset) => 8 * (buffer.length + offset.toInt)

/-- The outcome shows the bits of the buffer from the bit on, the most significant
first, or the position that is reached: in bits for a seek in bits, and in bytes
rounded up for a seek in bytes. -/
def Shows (buffer : Bytes) (bit : Nat) : Operation → Outcome → Prop
  | .readBit, .bit value => slice buffer bit 1 = [value]
  | .readBits count, .bits number =>
      slice buffer bit (min count.toNat 64) = toBits (min count.toNat 64) number.toNat
  | .read count, .bytes data => data.length = min count ((8 * buffer.length - bit) / 8) ∧
      slice buffer bit (8 * data.length) = bytesBits data
  | .align, .aligned => True
  | .seekBits count, .position number => (number : Int) = (Operation.seekBits count).target buffer bit
  | .seek place, .position number =>
      (number : Int) = ((Operation.seek place).target buffer bit + 7) / 8
  | _, _ => False

/-- A run of the abstract cursor: each outcome shows what stands at the bit it starts
from, and the next operation starts from the target. -/
inductive Follows (buffer : Bytes) : Nat → List Operation → List Outcome → Nat → Prop where
  | done (bit : Nat) : Follows buffer bit [] [] bit
  | step {bit next last : Nat} {operation : Operation} {outcome : Outcome}
      {operations : List Operation} {outcomes : List Outcome}
      (shows : Shows buffer bit operation outcome)
      (moved : (next : Int) = operation.target buffer bit)
      (rest : Follows buffer next operations outcomes last) :
      Follows buffer bit (operation :: operations) (outcome :: outcomes) last

/-- The bits whose position can be told. -/
def room : OverflowChecks → Int
  | .on => 2 ^ 64 - 8
  | .off => 2 ^ 64

/-- A relative move, counted in bits from the start of the byte that it leaves, is a
signed 64-bit number. -/
def MoveFits (bit : Nat) : Operation → Prop
  | .seekBits count => (bit % 8 : Nat) + count.toInt < 2 ^ 63
  | .seek (.current offset) => bit % 8 ≠ 0 →
      -2 ^ 63 ≤ offset.toInt * 8 ∧ (bit % 8 : Nat) + offset.toInt * 8 < 2 ^ 63
  | _ => True

/-- The numbers of an operation stay in their ranges.  A build that traps does not
let a move out of range succeed. -/
def InRange (checks : OverflowChecks) (buffer : Bytes) (bit : Nat) (operation : Operation) : Prop :=
  (checks = .off → MoveFits bit operation) ∧ operation.target buffer bit < room checks

/-- Every operation of a sequence is in range where the abstract cursor performs
it. -/
def Fits (checks : OverflowChecks) (buffer : Bytes) : Nat → List Operation → Prop
  | _, [] => True
  | bit, operation :: operations => InRange checks buffer bit operation ∧
      Fits checks buffer (operation.target buffer bit).toNat operations

/-! ## Arithmetic -/

theorem asU64_off (value : Int) : asU64 .off value = pure (value % 2 ^ 64).toNat := by
  unfold asU64
  split
  · rename_i inside
    rw [Int.emod_eq_of_lt inside.1 (by omega)]
  · rfl

theorem asU64_exact (checks : OverflowChecks) {value : Int} {number : Nat} (same : value = number)
    (small : number < 2 ^ 64) : asU64 checks value = pure number := by
  subst same
  unfold asU64
  rw [if_pos ⟨Int.natCast_nonneg number, by omega⟩, Int.toNat_natCast]

/-- Unsigned arithmetic that succeeds is exact up to a multiple of the range, and
exact where it is trapped. -/
theorem asU64_eq_ok {checks : OverflowChecks} {value : Int} {buffer : Bytes}
    {position number stop : Nat}
    (done : asU64 checks value buffer position = .ok (number, stop)) :
    stop = position ∧ (number : Int) = value % 2 ^ 64 ∧
      (checks = .on → 0 ≤ value ∧ value < 2 ^ 64) := by
  unfold asU64 at done
  split at done
  · rename_i inside
    cases done
    exact ⟨rfl, by omega, fun _ => by omega⟩
  · cases checks with
    | on => cases done
    | off =>
        cases done
        exact ⟨rfl, by omega, nofun⟩

theorem asU64_error {checks : OverflowChecks} {value : Int} {buffer : Bytes} {position : Nat}
    {fault : IoFault} (failed : asU64 checks value buffer position = .error fault) :
    fault = .panic := by
  unfold asU64 at failed
  split at failed
  · cases failed
  · cases checks with
    | on =>
        cases failed
        rfl
    | off => cases failed

theorem asI64_eq_ok {checks : OverflowChecks} {value number : Int} {buffer : Bytes}
    {position stop : Nat} (done : asI64 checks value buffer position = .ok (number, stop))
    (fits : checks = .off → -2 ^ 63 ≤ value ∧ value < 2 ^ 63) : stop = position ∧ number = value := by
  unfold asI64 at done
  split at done
  · cases done
    exact ⟨rfl, rfl⟩
  · rename_i outside
    cases checks with
    | on => cases done
    | off => exact absurd (fits rfl) outside

/-- Signed arithmetic that succeeds wraps, or has no need to. -/
theorem asI64_bmod {checks : OverflowChecks} {value number : Int} {buffer : Bytes}
    {position stop : Nat} (done : asI64 checks value buffer position = .ok (number, stop)) :
    stop = position ∧ number = value.bmod (2 ^ 64) := by
  unfold asI64 at done
  split at done
  · rename_i inside
    cases done
    exact ⟨rfl, (Int.bmod_eq_of_le (by omega) (by omega)).symm⟩
  · cases checks with
    | on => cases done
    | off =>
        cases done
        exact ⟨rfl, rfl⟩

theorem seekTo_eq_ok {target : Int} {buffer : Bytes} {position reached stop : Nat}
    (done : seekTo target buffer position = .ok (reached, stop)) :
    stop = reached ∧ (reached : Int) = target := by
  unfold seekTo at done
  split at done
  · cases done
    exact ⟨rfl, by omega⟩
  · cases done

/-- The quotient that is rounded towards zero, less one for a negative remainder, is
the one that is rounded down. -/
theorem quotient_rounded_down (count : Int) :
    count.tdiv 8 - (if count.tmod 8 < 0 then 1 else 0) = count / 8 := by
  rw [Int.tdiv_eq_ediv, Int.tmod_eq_emod]
  have sign : Int.sign 8 = 1 := rfl
  have size : Int.natAbs 8 = 8 := rfl
  rw [sign, size]
  split <;> split <;> omega

theorem remainder_wrapped (count : Int) : (8 + count.tmod 8) % 8 = count % 8 := by
  rw [Int.tmod_eq_emod]
  have size : Int.natAbs 8 = 8 := rfl
  rw [size]
  split <;> omega

/-! ## The reader follows the abstract cursor -/

variable {checks : OverflowChecks} {buffer : Bytes} {position stop bit : Nat}
  {state next : BitState}

/-- The cursor in bits is ahead by what the byte at hand has left, and by a whole byte
in the count of the reader. -/
theorem standing_ahead (standing : Standing buffer position state bit) :
    bit + 8 = position * 8 + (if isAligned state then 8 else state.bitPos) := by
  by_cases aligned : state.bitPos = 0
  · have place := standing.aligned aligned
    rw [if_pos (BitReader.isAligned_iff.mpr aligned)]
    omega
  · have place := (standing.begun aligned).1
    rw [if_neg fun shown => aligned (BitReader.isAligned_iff.mp shown)]
    omega

/-- The position in bits is told wherever it fits. -/
theorem bitStreamPosition_of_room (standing : Standing buffer position state bit)
    (fits : (bit : Int) < room checks) :
    bitStreamPosition checks state buffer position = .ok ((bit, state), position) := by
  have place := standing_ahead standing
  have start : (Reader.tell : Reader IoFault Nat) buffer position = .ok (position, position) := rfl
  rw [bitStreamPosition.eq_def, Reader.bind_ok start]
  obtain ⟨ahead, known⟩ : ∃ ahead, (if isAligned state then 8 else state.bitPos) = ahead := ⟨_, rfl⟩
  rw [known] at place ⊢
  cases checks with
  | on =>
      have most : (bit : Int) < 2 ^ 64 - 8 := fits
      rw [@asU64_exact .on ((position : Int) * 8) (position * 8) (by omega) (by omega),
        Reader.bind_ok (Reader.pure_apply _ buffer position),
        @asU64_exact .on _ (bit + 8) (by omega) (by omega),
        Reader.bind_ok (Reader.pure_apply _ buffer position),
        @asU64_exact .on _ bit (by omega) (by omega),
        Reader.bind_ok (Reader.pure_apply _ buffer position)]
      rfl
  | off =>
      have most : (bit : Int) < 2 ^ 64 := fits
      have back : (((((position : Int) * 8 % 2 ^ 64).toNat + ahead : Int) % 2 ^ 64).toNat - 8 : Int) %
          2 ^ 64 = bit := by omega
      rw [asU64_off, Reader.bind_ok (Reader.pure_apply _ buffer position), asU64_off,
        Reader.bind_ok (Reader.pure_apply _ buffer position), asU64_off,
        Reader.bind_ok (Reader.pure_apply _ buffer position), back]
      rfl

/-- A position that is told is that of the reader, up to a multiple of the range. -/
theorem bitStreamPosition_eq_ok {value : Nat}
    (told : bitStreamPosition checks state buffer position = .ok ((value, next), stop)) :
    next = state ∧ stop = position ∧ (value : Int) =
      (position * 8 + (if isAligned state then 8 else state.bitPos : Nat) - 8) % 2 ^ 64 := by
  have start : (Reader.tell : Reader IoFault Nat) buffer position = .ok (position, position) := rfl
  rw [bitStreamPosition.eq_def, Reader.bind_ok start, Reader.bind_eq_ok_iff] at told
  obtain ⟨bits, middle, scaled, rest⟩ := told
  obtain ⟨behind, last, added, tail⟩ := Reader.bind_eq_ok_iff.mp rest
  obtain ⟨bit, final, back, same⟩ := Reader.bind_eq_ok_iff.mp tail
  obtain ⟨rfl, bitsAre, _⟩ := asU64_eq_ok scaled
  obtain ⟨rfl, behindIs, _⟩ := asU64_eq_ok added
  obtain ⟨rfl, bitIs, _⟩ := asU64_eq_ok back
  cases same
  exact ⟨rfl, rfl, by omega⟩

/-- Taking the byte at the cursor. -/
theorem updateByte_eq_ok {done : Unit}
    (taken : updateByte state buffer position = .ok ((done, next), stop)) :
    stop = position + 1 ∧ next.bitPos = state.bitPos ∧ buffer[position]? = some next.currentByte := by
  obtain ⟨byte, middle, read, rest⟩ := Reader.bind_eq_ok_iff.mp taken
  cases rest
  have present := (Reader.readUint_inside read).1
  obtain ⟨found, stands⟩ := Reader.StandsAt.exists_byte present
  rw [(Reader.Reads.readU8 (ε := IoFault) found).at stands] at read
  cases read
  refine ⟨rfl, rfl, ?_⟩
  obtain ⟨before, after, rfl, rfl⟩ := stands
  simp

/-- Entering a byte stands at a place inside it, or at its start. -/
theorem enterByte_eq_ok {byteMove target : Int} {place value : Nat} (inside : place < 8)
    (moved : target = 8 * (position + byteMove) + place) (small : target < 2 ^ 64)
    (done : enterByte checks byteMove place state buffer position = .ok ((value, next), stop)) :
    (value : Int) = target ∧ Standing buffer stop next value := by
  have start : (Reader.tell : Reader IoFault Nat) buffer position = .ok (position, position) := rfl
  rw [enterByte.eq_def, Reader.bind_ok start, Reader.bind_eq_ok_iff] at done
  obtain ⟨byte, reached, sought, done⟩ := done
  obtain ⟨rfl, byteIs⟩ := seekTo_eq_ok sought
  rw [Reader.bind_eq_ok_iff] at done
  obtain ⟨bits, same, scaled, done⟩ := done
  obtain ⟨rfl, bitsAre, _⟩ := asU64_eq_ok scaled
  split at done
  · rename_i aligned
    cases done
    have none : place = 0 := BitReader.isAligned_iff.mp aligned
    refine ⟨by omega, inside, fun _ => by omega, fun begun => absurd none begun⟩
  · rename_i begun
    rw [Reader.bind_eq_ok_iff] at done
    obtain ⟨⟨_, taken⟩, behind, update, done⟩ := done
    obtain ⟨rfl, kept, held⟩ := updateByte_eq_ok update
    obtain ⟨sum, same, added, done⟩ := Reader.bind_eq_ok_iff.mp done
    obtain ⟨rfl, sumIs, _⟩ := asU64_eq_ok added
    cases done
    refine ⟨by omega, ?_, fun none => ?_, fun _ => ⟨?_, held⟩⟩
    · rw [kept]
      exact inside
    · exact absurd (BitReader.isAligned_iff.mpr (kept ▸ none)) begun
    · rw [kept]
      dsimp only
      omega

/-- A move in bits ends where it should. -/
theorem seekBits_eq_ok {count : Int} {value : Nat} (standing : Standing buffer position state bit)
    (fits : (bit : Int) < room checks)
    (signed : checks = .off → -2 ^ 63 ≤ state.bitPos + count ∧ state.bitPos + count < 2 ^ 63)
    (small : bit + count < 2 ^ 64)
    (done : seekBits checks count state buffer position = .ok ((value, next), stop)) :
    (value : Int) = bit + count ∧ Standing buffer stop next value := by
  rw [seekBits.eq_def] at done
  split at done
  · rename_i still
    rw [bitStreamPosition_of_room standing fits] at done
    cases done
    exact ⟨by omega, standing⟩
  · rw [Reader.bind_eq_ok_iff] at done
    obtain ⟨total, same, summed, done⟩ := done
    obtain ⟨rfl, rfl⟩ := asI64_eq_ok summed signed
    have place := standing_ahead standing
    have down := quotient_rounded_down (state.bitPos + count)
    have wrapped := remainder_wrapped (state.bitPos + count)
    refine enterByte_eq_ok ?_ ?_ small done
    · omega
    · rw [wrapped]
      split at place
      · rename_i aligned
        rw [if_pos aligned]
        have zero := BitReader.isAligned_iff.mp aligned
        omega
      · rename_i begun
        rw [if_neg begun]
        omega

theorem int64_bounds (number : Int64) : -2 ^ 63 ≤ number.toInt ∧ number.toInt < 2 ^ 63 :=
  ⟨number.le_toInt, number.toInt_lt⟩

/-- A seek of the cursor leaves the reader at a byte boundary. -/
theorem seekCursor_eq_ok {place : SeekFrom} {value : Nat}
    (done : (do
      let position ← seekCursor place
      return (position, { state with bitPos := 0 }) : Reader IoFault (Nat × BitState))
        buffer position = .ok ((value, next), stop)) :
    (value : Int) = destination buffer position place ∧ Standing buffer stop next (8 * value) := by
  obtain ⟨reached, middle, sought, rest⟩ := Reader.bind_eq_ok_iff.mp done
  obtain ⟨rfl, place⟩ := seekTo_eq_ok sought
  cases rest
  exact ⟨place, Nat.zero_lt_succ 7, fun _ => rfl, fun impossible => absurd rfl impossible⟩

/-- A seek of the reader ends at its target. -/
theorem seek_eq_ok {place : SeekFrom} {value : Nat} (standing : Standing buffer position state bit)
    (fits : (bit : Int) < room checks) (signed : checks = .off → MoveFits bit (.seek place))
    (small : (Operation.seek place).target buffer bit < 2 ^ 64)
    (done : seek checks place state buffer position = .ok ((value, next), stop)) :
    Shows buffer bit (.seek place) (.position value) ∧
      ∃ reached : Nat, (reached : Int) = (Operation.seek place).target buffer bit ∧
        Standing buffer stop next reached := by
  have within := standing.bitPos_eq
  rw [seek.eq_def] at done
  cases place with
  | start offset =>
      obtain ⟨reached, there⟩ := seekCursor_eq_ok done
      simp only [destination] at reached
      simp only [Shows.eq_def, Operation.target]
      exact ⟨by omega, _, by omega, there⟩
  | fromEnd offset =>
      obtain ⟨reached, there⟩ := seekCursor_eq_ok done
      simp only [destination] at reached
      simp only [Shows.eq_def, Operation.target]
      exact ⟨by omega, _, by omega, there⟩
  | current offset =>
      simp only [Operation.target] at small
      cases aligned : isAligned state with
      | true =>
          rw [aligned] at done
          obtain ⟨reached, there⟩ := seekCursor_eq_ok done
          simp only [destination] at reached
          have place := standing.aligned (BitReader.isAligned_iff.mp aligned)
          simp only [Shows.eq_def, Operation.target]
          exact ⟨by omega, _, by omega, there⟩
      | false =>
          have begun : bit % 8 ≠ 0 := by
            intro zero
            rw [← within, ← BitReader.isAligned_iff, aligned] at zero
            cases zero
          have move (off : checks = .off) := signed off begun
          rw [aligned] at done
          obtain ⟨count, same, scaled, rest⟩ := Reader.bind_eq_ok_iff.mp done
          obtain ⟨rfl, rfl⟩ := asI64_eq_ok scaled fun off => by
            have limits := move off
            omega
          obtain ⟨⟨reached, moved⟩, behind, sought, last⟩ := Reader.bind_eq_ok_iff.mp rest
          cases last
          obtain ⟨bitIs, there⟩ := seekBits_eq_ok standing fits
            (fun off => by
              have limits := move off
              rw [within]
              omega) (by omega) sought
          simp only [Shows.eq_def, Operation.target]
          exact ⟨by omega, reached, by omega, there⟩

theorem room_le (checks : OverflowChecks) : room checks ≤ 2 ^ 64 := by
  cases checks with
  | on => decide
  | off => decide

/-- A read shows the bits where the reader stands, and ends behind them. -/
theorem readBit_eq_ok {outcome : Outcome} (standing : Standing buffer position state bit)
    (done : Operation.readBit.perform checks state buffer position = .ok ((outcome, next), stop)) :
    Shows buffer bit .readBit outcome ∧ Standing buffer stop next (bit + 1) := by
  obtain ⟨⟨value, after⟩, middle, read, rest⟩ := Reader.bind_eq_ok_iff.mp done
  cases rest
  rcases BitReader.Takes.readBit _ _ _ _ standing with
    ⟨enough, last, reached, taken, there⟩ | ⟨_, _, failed⟩
  · rw [taken] at read
    cases read
    obtain ⟨found, only⟩ := List.length_eq_one_iff.mp (BitReader.length_slice enough)
    refine ⟨?_, there⟩
    rw [Shows.eq_def]
    rw [only]
    rfl
  · rw [failed] at read
    cases read

theorem readBits_eq_ok {outcome : Outcome} {count : UInt8}
    (standing : Standing buffer position state bit)
    (done : (Operation.readBits count).perform checks state buffer position =
      .ok ((outcome, next), stop)) :
    Shows buffer bit (.readBits count) outcome ∧
      Standing buffer stop next (bit + min count.toNat 64) := by
  obtain ⟨⟨number, after⟩, middle, read, rest⟩ := Reader.bind_eq_ok_iff.mp done
  cases rest
  rcases BitReader.Takes.readBits count.toNat _ _ _ _ standing with
    ⟨enough, last, reached, taken, there⟩ | ⟨_, _, failed⟩
  · rw [taken] at read
    cases read
    refine ⟨?_, there⟩
    simp only [Shows.eq_def]
    have size := BitReader.length_slice enough
    have bound := ofBits_lt (slice buffer bit (min count.toNat 64))
    have wide : 2 ^ (min count.toNat 64) ≤ 2 ^ 64 :=
      Nat.pow_le_pow_right (by decide) (Nat.min_le_right _ _)
    rw [size] at bound
    have back := toBits_ofBits (slice buffer bit (min count.toNat 64))
    rw [size] at back
    rw [UInt64.toNat_ofNat_of_lt' (Nat.lt_of_lt_of_le bound wide), back]
  · rw [failed] at read
    cases read

/-- A successful operation shows what stands at the abstract cursor and ends at its
target. -/
theorem perform_eq_ok {operation : Operation} {outcome : Outcome}
    (standing : Standing buffer position state bit) (fits : (bit : Int) < room checks)
    (inRange : InRange checks buffer bit operation)
    (done : operation.perform checks state buffer position = .ok ((outcome, next), stop)) :
    Shows buffer bit operation outcome ∧
      ∃ reached : Nat, (reached : Int) = operation.target buffer bit ∧
        Standing buffer stop next reached := by
  have small : operation.target buffer bit < 2 ^ 64 := Int.lt_of_lt_of_le inRange.2 (room_le checks)
  cases operation with
  | readBit =>
      obtain ⟨shown, there⟩ := readBit_eq_ok standing done
      exact ⟨shown, bit + 1, rfl, there⟩
  | readBits count =>
      obtain ⟨shown, there⟩ := readBits_eq_ok standing done
      exact ⟨shown, _, by simp only [Operation.target]; omega, there⟩
  | read count =>
      obtain ⟨⟨data, after⟩, middle, read, rest⟩ := Reader.bind_eq_ok_iff.mp done
      cases rest
      rcases BitReader.read_spec standing count with
        ⟨bytes, last, reached, taken, size, same, there⟩ | ⟨_, _, failed⟩
      · rw [taken] at read
        cases read
        refine ⟨⟨size, same.symm⟩, _, ?_, there⟩
        simp only [Operation.target]
        rw [size]
        omega
      · rw [failed] at read
        cases read
  | align =>
      obtain ⟨last, aligned, there⟩ := BitReader.align_spec standing
      change ((BitReader.align state >>= fun pair => pure (Outcome.aligned, pair.2)) : Reader _ _)
        buffer position = _ at done
      rw [Reader.bind_ok aligned] at done
      cases done
      refine ⟨trivial, _, ?_, there⟩
      simp only [Operation.target]
      omega
  | seekBits count =>
      obtain ⟨⟨value, after⟩, middle, moved, rest⟩ := Reader.bind_eq_ok_iff.mp done
      cases rest
      have limits := int64_bounds count
      obtain ⟨valueIs, there⟩ := seekBits_eq_ok standing fits
        (fun off => by
          have most := inRange.1 off
          simp only [MoveFits] at most
          rw [standing.bitPos_eq]
          omega) small moved
      exact ⟨valueIs, value, valueIs, there⟩
  | seek place =>
      obtain ⟨⟨value, after⟩, middle, moved, rest⟩ := Reader.bind_eq_ok_iff.mp done
      cases rest
      exact seek_eq_ok standing fits inRange.1 small moved

/-- A successful sequence of operations in range follows the abstract cursor. -/
theorem performAll_follows {operations : List Operation} {outcomes : List Outcome}
    (standing : Standing buffer position state bit) (fits : (bit : Int) < room checks)
    (inRange : Fits checks buffer bit operations)
    (done : performAll checks operations state buffer position = .ok ((outcomes, next), stop)) :
    ∃ last : Nat, Follows buffer bit operations outcomes last ∧ Standing buffer stop next last ∧
      (last : Int) < room checks := by
  induction operations generalizing position state bit outcomes with
  | nil =>
      cases done
      exact ⟨bit, .done bit, standing, fits⟩
  | cons operation operations ih =>
      obtain ⟨⟨outcome, after⟩, middle, first, rest⟩ := Reader.bind_eq_ok_iff.mp done
      obtain ⟨⟨others, final⟩, behind, all, same⟩ := Reader.bind_eq_ok_iff.mp rest
      cases same
      obtain ⟨shown, reached, moved, there⟩ := perform_eq_ok standing fits inRange.1 first
      have follows := inRange.2
      rw [← moved, Int.toNat_natCast] at follows
      obtain ⟨last, run, standingLast, small⟩ :=
        ih there (moved ▸ inRange.1.2) follows all
      exact ⟨last, .step shown moved run, standingLast, small⟩

/-- A reader over a slice refines the abstract cursor: after every successful sequence
of operations in range the outcomes are those of a run of the abstract cursor, and
the position in bits is where that run ends. -/
theorem reader_refines_cursor (checks : OverflowChecks) (buffer : Bytes)
    (operations : List Operation) (inRange : Fits checks buffer 0 operations)
    {outcomes : List Outcome} {state : BitState} {stop : Nat}
    (done : BitReader.run (performAll checks operations) buffer 0 = .ok ((outcomes, state), stop)) :
    ∃ last : Nat, Follows buffer 0 operations outcomes last ∧
      bitStreamPosition checks state buffer stop = .ok ((last, state), stop) := by
  have start : ((0 : Nat) : Int) < room checks := by
    cases checks with
    | on => decide
    | off => decide
  obtain ⟨last, follows, standing, small⟩ :=
    performAll_follows (Standing.start buffer) start inRange done
  exact ⟨last, follows, bitStreamPosition_of_room standing small⟩

/-- Reads, moves in both directions and seeks over a slice of two bytes. -/
def mixedOperations : List Operation :=
  [.readBits 3, .seekBits 7, .readBit, .seekBits (-9), .seek (.current 1), .read 0, .align,
    .seek (.fromEnd (-1)), .readBits 8]

theorem mixedOperations_refine :
    Fits .on [0xA5, 0x3C] 0 mixedOperations ∧
      BitReader.run (performAll .on mixedOperations) [0xA5, 0x3C] 0 = .ok (([.bits 5, .position 10,
        .bit true, .position 2, .position 2, .bytes [], .aligned, .position 1, .bits 0x3C],
          ⟨0, 0x3C⟩), 2) ∧
      ∃ last : Nat, Follows [0xA5, 0x3C] 0 mixedOperations [.bits 5, .position 10, .bit true,
        .position 2, .position 2, .bytes [], .aligned, .position 1, .bits 0x3C] last ∧
        bitStreamPosition .on ⟨0, 0x3C⟩ [0xA5, 0x3C] 2 = .ok ((last, ⟨0, 0x3C⟩), 2) := by
  have inRange : Fits .on [0xA5, 0x3C] 0 mixedOperations := by
    simp [Fits, InRange, mixedOperations, Operation.target, room]
  have done : BitReader.run (performAll .on mixedOperations) [0xA5, 0x3C] 0 =
      .ok (([.bits 5, .position 10, .bit true, .position 2, .position 2, .bytes [], .aligned,
        .position 1, .bits 0x3C], ⟨0, 0x3C⟩), 2) := by decide +kernel
  exact ⟨inRange, done, reader_refines_cursor .on [0xA5, 0x3C] mixedOperations inRange done⟩

/-- The bit at which the cursor stands after a seek to byte 2 ^ 61 is no 64-bit number:
its position is told as 0 where arithmetic wraps, and not at all where it is trapped. -/
theorem far_position_lost :
    (BitReader.run (performAll .off [.seek (.start 0x2000000000000000)]) [] 0 =
        .ok (([.position 0x2000000000000000], ⟨0, 0⟩), 0x2000000000000000) ∧
      ¬∃ last : Nat,
        Follows [] 0 [.seek (.start 0x2000000000000000)] [.position 0x2000000000000000] last ∧
          bitStreamPosition .off ⟨0, 0⟩ [] 0x2000000000000000 =
            .ok ((last, ⟨0, 0⟩), 0x2000000000000000)) ∧
    (BitReader.run (performAll .on [.seek (.start 0x2000000000000000)]) [] 0 =
        .ok (([.position 0x2000000000000000], ⟨0, 0⟩), 0x2000000000000000) ∧
      bitStreamPosition .on ⟨0, 0⟩ [] 0x2000000000000000 = .error .panic) := by
  refine ⟨⟨by decide +kernel, ?_⟩, by decide +kernel, by decide +kernel⟩
  rintro ⟨last, follows, told⟩
  have wrapped : bitStreamPosition .off ⟨0, 0⟩ [] 0x2000000000000000 =
      .ok ((0, ⟨0, 0⟩), 0x2000000000000000) := by decide +kernel
  rw [wrapped] at told
  cases told
  cases follows with
  | step shown moved rest =>
      cases rest
      exact absurd moved (by decide)

end BitCursor

end ScuffleVideo.Wire
