import ScuffleVideo.Wire.Bits
import ScuffleVideo.Wire.Cursor

/-!
# Reading bits

A bit reader takes a byte from the cursor when it needs one and hands its bits
out, the most significant first.  The state is a byte and a position in it; at
position 0 the byte is used up.  Cursor and state stand together at one bit of the
buffer.  `Takes` says how many bits a reader consumes from there and what it makes
of them, and composes through sequencing.
-/

namespace ScuffleVideo.Wire

structure BitState where
  bitPos : Nat
  currentByte : UInt8
  deriving DecidableEq, Repr

abbrev BitReader := StateT BitState (Reader IoFault)

namespace BitReader

open Reader (pure_apply bind_apply bind_ok)

def isAligned (state : BitState) : Bool := state.bitPos == 0

def updateByte : BitReader Unit := fun state => do
  let byte ← Reader.readU8
  return ((), { state with currentByte := byte })

/-- The next bit of the byte at hand. -/
def nextBit : BitReader Bool := fun state =>
  pure ((state.currentByte >>> UInt8.ofNat (7 - state.bitPos)) &&& 1 == 1,
    { state with bitPos := (state.bitPos + 1) % 8 })

def readBit : BitReader Bool := fun state =>
  if isAligned state then (do updateByte; nextBit : BitReader Bool) state else nextBit state

/-- The loop of `read_bits`. -/
def readBitsInto : Nat → UInt64 → BitReader UInt64
  | 0, bits => pure bits
  | count + 1, bits => do
      let bit ← readBit
      readBitsInto count (bits <<< 1 ||| bit.toUInt64)

def readBits (count : Nat) : BitReader UInt64 := readBitsInto (min count 64) 0

/-- A byte put together from eight bits. -/
def readUnaligned : BitReader UInt8 := do
  let bits ← readBitsInto 8 0
  return bits.toUInt8

def repeatedly {α : Type} (reader : BitReader α) : Nat → BitReader (List α)
  | 0 => pure []
  | count + 1 => do
      let value ← reader
      let values ← repeatedly reader count
      return value :: values

/-- Bytes come straight from the cursor at a byte boundary and bit by bit
elsewhere. -/
def readExact (count : Nat) : BitReader Bytes := fun state =>
  if isAligned state then do
    let bytes ← Reader.take count
    return (bytes, state)
  else repeatedly readUnaligned count state

/-- At most `count` bytes of the cursor, as many as it has. -/
def readAvailable (count : Nat) : Reader IoFault Bytes := fun buffer position =>
  .ok ((buffer.drop position).take count,
    position + ((buffer.drop position).take count).length)

/-- Bytes are read from the cursor at a byte boundary, where there may be too few, and
put together bit by bit elsewhere. -/
def read (count : Nat) : BitReader Bytes := fun state =>
  if isAligned state then do
    let bytes ← readAvailable count
    return (bytes, state)
  else repeatedly readUnaligned count state

def align : BitReader Unit := fun state => pure ((), { state with bitPos := 0 })

def readU8 : BitReader UInt8 := do
  let bytes ← readExact 1
  return UInt8.ofNat (ofBytesBE bytes)

def readU16 : BitReader UInt16 := do
  let bytes ← readExact 2
  return UInt16.ofNat (ofBytesBE bytes)

def readU32 : BitReader UInt32 := do
  let bytes ← readExact 4
  return UInt32.ofNat (ofBytesBE bytes)

def readU32LE : BitReader UInt32 := do
  let bytes ← readExact 4
  return UInt32.ofNat (ofBytesLE bytes)

def readU48LE : BitReader UInt64 := do
  let bytes ← readExact 6
  return UInt64.ofNat (ofBytesLE bytes)

/-- Move the cursor.  A position before the start is refused. -/
def seekCurrent (offset : Int) : Reader IoFault Nat := fun _ position =>
  if (position : Int) + offset < 0 then
    .error (.invalidData "invalid seek to a negative or overflowing position")
  else .ok (((position : Int) + offset).toNat, ((position : Int) + offset).toNat)

def bitStreamPosition : BitReader Nat := fun state => do
  let position ← Reader.tell
  return (position * 8 + (if isAligned state then 8 else state.bitPos) - 8, state)

/-- Move by bits in either direction.  A byte that is already begun has left the
cursor, and one that is begun by the move has to be taken again. -/
def seekBits (count : Int) : BitReader Nat := fun state =>
  if count = 0 then bitStreamPosition state
  else do
    let count : Int := state.bitPos + count
    let bitMove := count.tmod 8
    let byteMove := count.tdiv 8 - (if isAligned state then 0 else 1) -
      (if bitMove < 0 then 1 else 0)
    let position ← seekCurrent byteMove
    let bitPos := ((8 + bitMove) % 8).toNat
    if bitPos = 0 then return (position * 8, { state with bitPos := bitPos })
    else do
      let ((), state) ← updateByte { state with bitPos := bitPos }
      return (position * 8 + bitPos, state)

/-- Run a bit reader from a byte boundary, and keep what it leaves behind. -/
def run {α : Type} (reader : BitReader α) : Reader IoFault (α × BitState) := reader ⟨0, 0⟩

/-! ## Returning -/

/-- The reader returns a value or an error from every state and buffer. -/
class Returns {α : Type} (reader : BitReader α) : Prop where
  returned : ∀ state, Reader.Returns (reader state)

namespace Returns

variable {α β : Type}

instance pure (value : α) : Returns (pure value : BitReader α) :=
  ⟨fun state => Reader.Returns.pure (value, state)⟩

instance bind {first : BitReader α} {next : α → BitReader β} [head : Returns first]
    [tail : ∀ value, Returns (next value)] : Returns (first >>= next) where
  returned state := by
    have := head.returned state
    have (pair : α × BitState) : Reader.Returns (next pair.1 pair.2) := (tail pair.1).returned pair.2
    exact Reader.Returns.bind

instance ite {condition : Prop} [Decidable condition] {yes no : BitReader α}
    [first : Returns yes] [second : Returns no] : Returns (if condition then yes else no) := by
  split
  · exact first
  · exact second

instance updateByte : Returns updateByte := ⟨fun _ => Reader.Returns.bind⟩

instance nextBit : Returns nextBit := ⟨fun _ => Reader.Returns.pure _⟩

instance readBit : Returns readBit where
  returned state := by
    have := (bind : Returns (do BitReader.updateByte; BitReader.nextBit)).returned state
    have := nextBit.returned state
    exact Reader.Returns.ite

instance readBitsInto (count : Nat) (bits : UInt64) : Returns (readBitsInto count bits) := by
  induction count generalizing bits with
  | zero => exact pure bits
  | succ count ih => exact bind

instance readBits (count : Nat) : Returns (readBits count) := readBitsInto _ _

instance readUnaligned : Returns readUnaligned := bind

instance repeatedly (reader : BitReader α) [Returns reader] (count : Nat) :
    Returns (repeatedly reader count) := by
  induction count with
  | zero => exact pure []
  | succ count ih => exact bind

instance readExact (count : Nat) : Returns (readExact count) where
  returned state := by
    have := (repeatedly BitReader.readUnaligned count).returned state
    exact Reader.Returns.ite

instance readU8 : Returns readU8 := bind

instance readU16 : Returns readU16 := bind

instance readU32 : Returns readU32 := bind

instance readU32LE : Returns readU32LE := bind

instance readU48LE : Returns readU48LE := bind

instance seekCurrent (offset : Int) : Reader.Returns (seekCurrent offset) where
  returned buffer position fault failed := by
    unfold BitReader.seekCurrent at failed
    split at failed
    · cases failed
      rfl
    · cases failed

instance bitStreamPosition : Returns bitStreamPosition where
  returned state := by
    have : Reader.Returns (Reader.tell : Reader IoFault Nat) := ⟨nofun⟩
    exact Reader.Returns.bind

instance seekBits (count : Int) : Returns (seekBits count) where
  returned state := by
    have := bitStreamPosition.returned state
    have (next : BitState) := updateByte.returned next
    exact Reader.Returns.ite

instance run (reader : BitReader α) [all : Returns reader] : Reader.Returns (run reader) :=
  all.returned _

end Returns

/-! ## Where a reader stands -/

/-- The cursor and the state stand at a bit of the buffer.  Inside a byte the cursor
is already behind it, and the state holds the byte. -/
structure Standing (buffer : Bytes) (position : Nat) (state : BitState) (bit : Nat) : Prop where
  inside : state.bitPos < 8
  aligned : state.bitPos = 0 → bit = 8 * position
  begun : state.bitPos ≠ 0 → bit + 8 = 8 * position + state.bitPos ∧
    buffer[position - 1]? = some state.currentByte

theorem Standing.start (buffer : Bytes) : Standing buffer 0 ⟨0, 0⟩ 0 where
  inside := Nat.zero_lt_succ 7
  aligned _ := rfl
  begun impossible := absurd rfl impossible

theorem Standing.bitPos_eq {buffer : Bytes} {position bit : Nat} {state : BitState}
    (standing : Standing buffer position state bit) : state.bitPos = bit % 8 := by
  have inside := standing.inside
  by_cases aligned : state.bitPos = 0
  · have place := standing.aligned aligned
    omega
  · have place := (standing.begun aligned).1
    omega

theorem isAligned_iff {state : BitState} : isAligned state = true ↔ state.bitPos = 0 := beq_iff_eq

/-- The bits of the buffer from a place on. -/
def slice (buffer : Bytes) (bit count : Nat) : List Bool := ((bytesBits buffer).drop bit).take count

/-- The bits that a read of `count` bits needs are there.  A read of none needs
none. -/
def Enough (buffer : Bytes) (bit count : Nat) : Prop :=
  count = 0 ∨ bit + count ≤ 8 * buffer.length

theorem enough_add {buffer : Bytes} {bit count more : Nat} :
    Enough buffer bit (count + more) ↔
      Enough buffer bit count ∧ Enough buffer (bit + count) more := by
  unfold Enough
  omega

theorem slice_add (buffer : Bytes) (bit count more : Nat) :
    slice buffer bit (count + more) = slice buffer bit count ++ slice buffer (bit + count) more := by
  rw [slice, slice, slice, List.take_add, List.drop_drop]

theorem length_slice {buffer : Bytes} {bit count : Nat} (enough : Enough buffer bit count) :
    (slice buffer bit count).length = count := by
  rw [slice, List.length_take, List.length_drop, length_bytesBits]
  unfold Enough at enough
  omega

/-- A reader that consumes `count` bits and returns what they mean, and that fails
exactly when they are not there. -/
def Takes {α : Type} (reader : BitReader α) (count : Nat) (means : List Bool → α) : Prop :=
  ∀ (buffer : Bytes) (position : Nat) (state : BitState) (bit : Nat),
    Standing buffer position state bit →
      (Enough buffer bit count ∧ ∃ next stop,
        reader state buffer position = .ok ((means (slice buffer bit count), next), stop) ∧
          Standing buffer stop next (bit + count)) ∨
      (¬Enough buffer bit count ∧ ∃ fault, reader state buffer position = .error fault)

namespace Takes

variable {α β : Type}

theorem pure (value : α) : Takes (pure value) 0 fun _ => value :=
  fun _ position state _ standing => .inl ⟨.inl rfl, state, position, rfl, standing⟩

theorem bind {first : BitReader α} {next : α → BitReader β} {count more : Nat}
    {means : List Bool → α} {meansNext : α → List Bool → β} (head : Takes first count means)
    (tail : ∀ value, Takes (next value) more (meansNext value)) :
    Takes (first >>= next) (count + more) fun bits =>
      meansNext (means (bits.take count)) (bits.drop count) := by
  intro buffer position state bit standing
  have run : (first >>= next) state buffer position =
      match first state buffer position with
      | .error fault => .error fault
      | .ok ((value, middle), reached) => next value middle buffer reached := by
    change (first state >>= fun pair => next pair.1 pair.2) buffer position = _
    rw [bind_apply]
    cases first state buffer position <;> rfl
  rw [run, enough_add]
  rcases head _ _ _ _ standing with ⟨enough, middle, reached, done, there⟩ | ⟨short, fault, failed⟩
  · rw [done]
    have cut : (slice buffer bit (count + more)).take count = slice buffer bit count := by
      rw [slice_add, List.take_left' (length_slice enough)]
    have left : (slice buffer bit (count + more)).drop count = slice buffer (bit + count) more := by
      rw [slice_add, List.drop_left' (length_slice enough)]
    rcases tail (means (slice buffer bit count)) _ _ _ _ there with
      ⟨also, last, stop, finished, standingLast⟩ | ⟨short, fault, failed⟩
    · refine .inl ⟨⟨enough, also⟩, last, stop, ?_, ?_⟩
      · dsimp only
        rw [cut, left]
        exact finished
      · rw [← Nat.add_assoc]
        exact standingLast
    · exact .inr ⟨fun both => short both.2, fault, failed⟩
  · rw [failed]
    exact .inr ⟨fun both => short both.1, fault, rfl⟩

theorem congr {reader : BitReader α} {count other : Nat} {means meansOther : List Bool → α}
    (taken : Takes reader count means) (same : count = other)
    (equal : ∀ bits : List Bool, bits.length = other → means bits = meansOther bits) :
    Takes reader other meansOther := by
  subst same
  intro buffer position state bit standing
  rcases taken _ _ _ _ standing with ⟨enough, next, stop, done, there⟩ | failed
  · exact .inl ⟨enough, next, stop, by rw [done, equal _ (length_slice enough)], there⟩
  · exact .inr failed

end Takes

/-! ## What the readers take -/

/-- The shift and mask of a byte pick out the bit at a place. -/
theorem shifted_bit (byte : UInt8) {place : Nat} (inside : place < 8) :
    ((byte >>> UInt8.ofNat (7 - place)) &&& 1 == 1) = (byte.toNat / 2 ^ (7 - place) % 2 == 1) := by
  have number : ((byte >>> UInt8.ofNat (7 - place)) &&& 1).toNat =
      byte.toNat / 2 ^ (7 - place) % 2 := by
    rw [UInt8.toNat_and, UInt8.toNat_shiftRight, UInt8.toNat_ofNat_of_lt' (show 7 - place < 256 by omega),
      Nat.mod_eq_of_lt (show 7 - place < 8 by omega), Nat.shiftRight_eq_div_pow]
    exact Nat.and_one_is_mod _
  rw [Bool.eq_iff_iff, beq_iff_eq, beq_iff_eq, ← UInt8.toNat_inj, number]
  rfl

/-- The next bit of a byte whose bits before the place have been taken. -/
theorem nextBit_standing {buffer : Bytes} {position bit : Nat} {state : BitState}
    (inside : state.bitPos < 8) (place : bit + 8 = 8 * position + state.bitPos)
    (held : buffer[position - 1]? = some state.currentByte) :
    ∃ found, (bytesBits buffer)[bit]? = some found ∧ ∃ next,
      nextBit state buffer position = .ok ((found, next), position) ∧
        Standing buffer position next (bit + 1) := by
  refine ⟨state.currentByte.toNat / 2 ^ (7 - state.bitPos) % 2 == 1, ?_,
    { state with bitPos := (state.bitPos + 1) % 8 }, ?_, ?_⟩
  · rw [show bit = 8 * (position - 1) + state.bitPos by omega,
      getElem?_bytesBits buffer (position - 1) inside, held]
    rfl
  · rw [nextBit, pure_apply, shifted_bit state.currentByte inside]
  · exact {
      inside := Nat.mod_lt _ (by decide)
      aligned := fun full => by
        dsimp only at full
        omega
      begun := fun partly => by
        dsimp only at partly ⊢
        exact ⟨by omega, held⟩ }

theorem updateByte_past {buffer : Bytes} {position : Nat} {state : BitState}
    (past : ¬position < buffer.length) :
    updateByte state buffer position = .error .unexpectedEof := by
  have short : ¬position + 1 ≤ buffer.length := by omega
  have starved : (Reader.readU8 : Reader IoFault UInt8) buffer position =
      .error IoFault.unexpectedEof := by
    unfold Reader.readU8 Reader.readUint
    rw [bind_apply, bind_apply, Reader.take, if_neg short]
    rfl
  rw [updateByte.eq_def, bind_apply, starved]

theorem Takes.readBit : Takes readBit 1 fun bits => bits.headD false := by
  intro buffer position state bit standing
  have single {found : Bool} (there : (bytesBits buffer)[bit]? = some found) :
      Enough buffer bit 1 ∧ (slice buffer bit 1).headD false = found := by
    obtain ⟨within, same⟩ := List.getElem?_eq_some_iff.mp there
    rw [length_bytesBits] at within
    refine ⟨.inr (by omega), ?_⟩
    rw [slice, List.drop_eq_getElem_cons (by rw [length_bytesBits]; exact within)]
    exact same
  unfold BitReader.readBit
  by_cases aligned : state.bitPos = 0
  · have place := standing.aligned aligned
    rw [if_pos (isAligned_iff.mpr aligned)]
    by_cases present : position < buffer.length
    · obtain ⟨byte, stands⟩ := Reader.StandsAt.exists_byte present
      have byteRead := (Reader.Reads.readU8 (ε := IoFault) byte).at stands
      have held : buffer[position]? = some byte := by
        obtain ⟨before, after, rfl, rfl⟩ := stands
        simp
      obtain ⟨found, there, next, done, standingNext⟩ :=
        @nextBit_standing buffer (position + 1) bit { state with currentByte := byte }
          standing.inside (by dsimp only; omega) held
      have step : (do updateByte; nextBit : BitReader Bool) state buffer position =
          .ok ((found, next), position + 1) := by
        change ((Reader.readU8 >>= fun byte => Pure.pure ((), { state with currentByte := byte })) >>=
          fun pair => nextBit pair.2) buffer position = _
        rw [bind_ok (bind_ok byteRead _)]
        exact done
      obtain ⟨enough, same⟩ := single there
      exact .inl ⟨enough, next, position + 1, by rw [step, ← same], standingNext⟩
    · refine .inr ⟨?_, IoFault.unexpectedEof, ?_⟩
      · rintro (impossible | within)
        · cases impossible
        · omega
      · change (updateByte state >>= fun pair => nextBit pair.2) buffer position = _
        rw [bind_apply, updateByte_past present]
  · obtain ⟨place, held⟩ := standing.begun aligned
    rw [if_neg fun shown => aligned (isAligned_iff.mp shown)]
    obtain ⟨found, there, next, done, standingNext⟩ :=
      nextBit_standing standing.inside place held
    obtain ⟨enough, same⟩ := single there
    exact .inl ⟨enough, next, position, by rw [done, ← same], standingNext⟩

theorem foldl_bits_mod {first second : Nat} (same : first % 2 ^ 64 = second % 2 ^ 64)
    (bits : List Bool) :
    bits.foldl (fun total bit => total * 2 + bit.toNat) first % 2 ^ 64 =
      bits.foldl (fun total bit => total * 2 + bit.toNat) second % 2 ^ 64 := by
  induction bits generalizing first second with
  | nil => exact same
  | cons bit bits ih =>
      apply ih
      dsimp only
      omega

/-- The loop shifts the bits in at the low end. -/
theorem Takes.readBitsInto (count : Nat) (number : UInt64) :
    Takes (readBitsInto count number) count fun bits =>
      UInt64.ofNat (bits.foldl (fun total bit => total * 2 + bit.toNat) number.toNat) := by
  induction count generalizing number with
  | zero =>
      apply (Takes.pure number).congr rfl
      intro bits empty
      rw [List.eq_nil_of_length_eq_zero empty, List.foldl_nil, UInt64.ofNat_toNat]
  | succ count ih =>
      have shifted (bit : Bool) : (number <<< 1 ||| bit.toUInt64).toNat =
          (number.toNat * 2 + bit.toNat) % 2 ^ 64 := by
        have even : (number <<< 1).toNat = number.toNat * 2 % 2 ^ 64 := by
          rw [UInt64.toNat_shiftLeft, Nat.shiftLeft_eq]
          rfl
        have low : bit.toUInt64.toNat = bit.toNat := by cases bit <;> rfl
        have halves : number.toNat * 2 % 2 ^ 64 = 2 ^ 1 * (number.toNat % 2 ^ 63) := by omega
        have small := Bool.toNat_le bit
        rw [UInt64.toNat_or, even, low, halves,
          ← Nat.two_pow_add_eq_or_of_lt (show bit.toNat < 2 ^ 1 by omega)]
        omega
      apply (Takes.readBit.bind fun bit => ih (number <<< 1 ||| bit.toUInt64)).congr
        (Nat.add_comm 1 count)
      intro bits size
      cases bits with
      | nil => cases size
      | cons bit bits =>
          simp only [List.take_succ_cons, List.take_zero, List.headD_cons, List.drop_succ_cons,
            List.drop_zero, List.foldl_cons, shifted]
          rw [← UInt64.toNat_inj, UInt64.toNat_ofNat', UInt64.toNat_ofNat']
          exact foldl_bits_mod (Nat.mod_mod _ _) bits

theorem Takes.readBits (count : Nat) :
    Takes (readBits count) (min count 64) fun bits => UInt64.ofNat (ofBits bits) :=
  Takes.readBitsInto (min count 64) 0

theorem Takes.readUnaligned : Takes readUnaligned 8 fun bits => UInt8.ofNat (ofBits bits) := by
  apply ((Takes.readBitsInto 8 0).bind fun number => Takes.pure number.toUInt8).congr rfl
  intro bits size
  rw [List.take_of_length_le (Nat.le_of_eq size), ← UInt8.toNat_inj, UInt64.toNat_toUInt8,
    UInt64.toNat_ofNat', UInt8.toNat_ofNat']
  change ofBits bits % 2 ^ 64 % 2 ^ 8 = _
  omega

theorem Takes.repeatedUnaligned (count : Nat) :
    Takes (repeatedly BitReader.readUnaligned count) (8 * count) (bitsBytes count) := by
  induction count with
  | zero => exact Takes.pure []
  | succ count ih =>
      have step : Takes (repeatedly BitReader.readUnaligned (count + 1)) (8 + (8 * count + 0)) _ :=
        Takes.readUnaligned.bind fun byte => ih.bind fun bytes => Takes.pure (byte :: bytes)
      apply step.congr (by omega)
      intro bits size
      have rest : (bits.drop 8).take (8 * count) = bits.drop 8 :=
        List.take_of_length_le (by rw [List.length_drop]; omega)
      rw [bitsBytes, rest]

/-- Whole bytes of the buffer in bits. -/
theorem bytesBits_drop_take (buffer : Bytes) (position count : Nat) :
    bytesBits ((buffer.drop position).take count) = slice buffer (8 * position) (8 * count) := by
  rw [bytesBits_take, bytesBits_drop, slice]

/-- A read gives as many whole bytes as are there, up to what is asked for, or fails
where they would have to be put together. -/
theorem read_spec {buffer : Bytes} {position bit : Nat} {state : BitState}
    (standing : Standing buffer position state bit) (count : Nat) :
    (∃ bytes next stop, read count state buffer position = .ok ((bytes, next), stop) ∧
      bytes.length = min count ((8 * buffer.length - bit) / 8) ∧
      bytesBits bytes = slice buffer bit (8 * bytes.length) ∧
      Standing buffer stop next (bit + 8 * bytes.length)) ∨
    (¬Enough buffer bit (8 * count) ∧ ∃ fault, read count state buffer position = .error fault) := by
  unfold read
  by_cases aligned : state.bitPos = 0
  · have place := standing.aligned aligned
    rw [if_pos (isAligned_iff.mpr aligned)]
    have length : ((buffer.drop position).take count).length =
        min count ((8 * buffer.length - bit) / 8) := by
      rw [List.length_take, List.length_drop, place]
      omega
    refine .inl ⟨_, state, _, rfl, length, ?_, ?_⟩
    · rw [place, ← bytesBits_drop_take, List.length_take, List.take_eq_take_min]
    · exact {
        inside := standing.inside
        aligned := fun _ => by omega
        begun := fun impossible => absurd aligned impossible }
  · rw [if_neg fun shown => aligned (isAligned_iff.mp shown)]
    rcases Takes.repeatedUnaligned count buffer position state bit standing with
      ⟨enough, next, stop, done, there⟩ | failed
    · have size := length_slice enough
      refine .inl ⟨_, next, stop, done, ?_, ?_, ?_⟩
      · rw [length_bitsBytes]
        unfold Enough at enough
        omega
      · rw [length_bitsBytes, bytesBits_bitsBytes size]
      · rw [length_bitsBytes]
        exact there
    · exact .inr failed

/-- Aligning moves to the next byte boundary. -/
theorem align_spec {buffer : Bytes} {position bit : Nat} {state : BitState}
    (standing : Standing buffer position state bit) :
    ∃ next, align state buffer position = .ok (((), next), position) ∧
      Standing buffer position next ((bit + 7) / 8 * 8) := by
  refine ⟨{ state with bitPos := 0 }, rfl, ?_⟩
  have inside := standing.inside
  refine ⟨Nat.zero_lt_succ 7, fun _ => ?_, fun impossible => absurd rfl impossible⟩
  by_cases aligned : state.bitPos = 0
  · have place := standing.aligned aligned
    omega
  · have place := (standing.begun aligned).1
    omega

end BitReader

end ScuffleVideo.Wire
