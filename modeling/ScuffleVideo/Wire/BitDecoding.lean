import ScuffleVideo.Wire.BitReader

/-!
# Codes in a bit stream

`Decodes` says that a reader, standing in front of a code, returns what the code denotes and
stands behind it, whatever is before and after.  Codes written one after the other are
decoded by the readers one after the other, so a reader of a structure is correct if it
follows the layout of the structure.  A seek forward decodes any bits that are there.
-/

namespace ScuffleVideo.Wire

theorem toUInt8_ofNat (number : UInt8) : (UInt64.ofNat number.toNat).toUInt8 = number := by
  rw [← UInt8.toNat_inj, UInt64.toNat_toUInt8, UInt64.toNat_ofNat']
  have small := number.toNat_lt
  omega

theorem toUInt8_lt {number : UInt64} {count : Nat} (small : number.toNat < 2 ^ count) :
    number.toUInt8.toNat < 2 ^ count := by
  rw [UInt64.toNat_toUInt8]
  exact Nat.lt_of_le_of_lt (Nat.mod_le _ _) small

namespace BitReader

open Reader (bind_apply)

variable {α β : Type} {first : BitReader α} {next : α → BitReader β} {buffer : Bytes}
  {position stop : Nat} {state last : BitState}

/-! ## Sequences of readers -/

theorem sequence_apply : (first >>= next) state buffer position =
    match first state buffer position with
    | .error fault => .error fault
    | .ok ((value, middle), reached) => next value middle buffer reached := by
  change (first state >>= fun pair => next pair.1 pair.2) buffer position = _
  rw [bind_apply]
  cases first state buffer position <;> rfl

theorem sequence_assoc {γ : Type} (first : BitReader α) (next : α → BitReader β)
    (behind : β → BitReader γ) :
    first >>= next >>= behind = first >>= fun value => next value >>= behind := by
  funext state buffer position
  rw [sequence_apply, sequence_apply, sequence_apply]
  cases first state buffer position with
  | error fault => rfl
  | ok found => exact sequence_apply.symm

theorem sequence_ok {value : α} {middle : BitState} {reached : Nat}
    (done : first state buffer position = .ok ((value, middle), reached)) :
    (first >>= next) state buffer position = next value middle buffer reached := by
  rw [sequence_apply, done]

theorem sequence_error {fault : IoFault} (failed : first state buffer position = .error fault) :
    (first >>= next) state buffer position = .error fault := by
  rw [sequence_apply, failed]

theorem sequence_ok_iff {result : β} :
    (first >>= next) state buffer position = .ok ((result, last), stop) ↔
      ∃ value middle reached, first state buffer position = .ok ((value, middle), reached) ∧
        next value middle buffer reached = .ok ((result, last), stop) := by
  rw [sequence_apply]
  cases first state buffer position with
  | error fault =>
      constructor
      · intro impossible
        cases impossible
      · rintro ⟨_, _, _, impossible, _⟩
        cases impossible
  | ok triple =>
      obtain ⟨⟨value, middle⟩, reached⟩ := triple
      constructor
      · exact fun done => ⟨value, middle, reached, rfl, done⟩
      · rintro ⟨_, _, _, same, done⟩
        cases same
        exact done

/-! ## What success tells -/

/-- A reader that returned has taken the bits that stood in front of it. -/
theorem Takes.of_ok {reader : BitReader α} {count bit : Nat} {means : List Bool → α} {value : α}
    (takes : Takes reader count means) (standing : Standing buffer position state bit)
    (done : reader state buffer position = .ok ((value, last), stop)) :
    value = means (slice buffer bit count) ∧ Enough buffer bit count ∧
      Standing buffer stop last (bit + count) := by
  rcases takes _ _ _ _ standing with ⟨enough, next, reached, read, there⟩ | ⟨_, fault, failed⟩
  · rw [read] at done
    cases done
    exact ⟨rfl, enough, there⟩
  · rw [failed] at done
    cases done

/-- Whatever the reader returns is as it has to be. -/
def Yields (reader : BitReader α) (holds : α → Prop) : Prop :=
  ∀ state buffer position value last stop,
    reader state buffer position = .ok ((value, last), stop) → holds value

namespace Yields

theorem pure {value : α} {holds : α → Prop} (here : holds value) : Yields (pure value) holds := by
  rintro _ _ _ _ _ _ ⟨⟩
  exact here

theorem bind {good : α → Prop} {holds : β → Prop} (head : Yields first good)
    (tail : ∀ value, good value → Yields (next value) holds) : Yields (first >>= next) holds := by
  intro state buffer position result last stop done
  obtain ⟨value, middle, reached, read, more⟩ := sequence_ok_iff.mp done
  exact tail value (head _ _ _ _ _ _ read) _ _ _ _ _ _ more

/-- What follows decides alone. -/
theorem behind {holds : β → Prop} (tail : ∀ value, Yields (next value) holds) :
    Yields (first >>= next) holds :=
  bind (fun _ _ _ _ _ _ _ => trivial) fun value (_ : True) => tail value

end Yields

theorem readBitsInto_lt {count : Nat} {number result : UInt64} {bound : Nat}
    (small : number.toNat < bound)
    (done : readBitsInto count number state buffer position = .ok ((result, last), stop)) :
    result.toNat < bound * 2 ^ count := by
  induction count generalizing number bound state position with
  | zero =>
      cases done
      rw [Nat.pow_zero, Nat.mul_one]
      exact small
  | succ count ih =>
      obtain ⟨bit, middle, reached, _, more⟩ := sequence_ok_iff.mp done
      have low : bit.toUInt64.toNat ≤ 1 := by cases bit <;> decide
      have shifted : (number <<< 1 ||| bit.toUInt64).toNat < bound * 2 := by
        have even : (number <<< 1).toNat = number.toNat * 2 % 2 ^ 64 := by
          rw [UInt64.toNat_shiftLeft, Nat.shiftLeft_eq]
          rfl
        have halves : number.toNat * 2 % 2 ^ 64 = 2 ^ 1 * (number.toNat % 2 ^ 63) := by omega
        rw [UInt64.toNat_or, even, halves,
          ← Nat.two_pow_add_eq_or_of_lt (show bit.toUInt64.toNat < 2 ^ 1 by omega)]
        omega
      have bounded := ih shifted more
      rw [Nat.pow_succ', ← Nat.mul_assoc]
      exact bounded

/-- The number of some bits is as small as these allow. -/
theorem readBits_lt {count : Nat} {result : UInt64} (narrow : count ≤ 64)
    (done : readBits count state buffer position = .ok ((result, last), stop)) :
    result.toNat < 2 ^ count := by
  have bounded := readBitsInto_lt (show (0 : UInt64).toNat < 1 by decide) done
  rw [Nat.min_eq_left narrow, Nat.one_mul] at bounded
  exact bounded

theorem length_of_repeatedly {reader : BitReader α} {count : Nat} {values : List α}
    (done : repeatedly reader count state buffer position = .ok ((values, last), stop)) :
    values.length = count := by
  induction count generalizing values state position with
  | zero =>
      cases done
      rfl
  | succ count ih =>
      obtain ⟨value, _, _, _, more⟩ := sequence_ok_iff.mp done
      obtain ⟨others, _, _, rest, same⟩ := sequence_ok_iff.mp more
      cases same
      rw [List.length_cons, ih rest]

/-- What every value of a reader has, all values that it returns one after the other have. -/
theorem forall_mem_repeatedly {reader : BitReader α} {holds : α → Prop}
    (each : ∀ {state last buffer position stop value},
      reader state buffer position = .ok ((value, last), stop) → holds value)
    {count : Nat} {values : List α}
    (done : repeatedly reader count state buffer position = .ok ((values, last), stop)) :
    ∀ value ∈ values, holds value := by
  induction count generalizing values state position with
  | zero =>
      cases done
      exact List.forall_mem_nil _
  | succ count ih =>
      obtain ⟨value, _, _, read, more⟩ := sequence_ok_iff.mp done
      obtain ⟨others, _, _, rest, same⟩ := sequence_ok_iff.mp more
      cases same
      exact List.forall_mem_cons.mpr ⟨each read, ih rest⟩

theorem length_of_readExact {count : Nat} {bytes : Bytes}
    (done : readExact count state buffer position = .ok ((bytes, last), stop)) :
    bytes.length = count := by
  unfold readExact at done
  split at done
  · obtain ⟨taken, _, read, same⟩ := Reader.bind_eq_ok_iff.mp done
    cases same
    unfold Reader.take at read
    split at read
    · cases read
      rw [List.length_take, List.length_drop]
      omega
    · cases read
  · exact length_of_repeatedly done

/-! ## Moving forward -/

/-- Taking the byte at the cursor, which is there or not. -/
theorem updateByte_cases (state : BitState) (buffer : Bytes) (position : Nat) :
    (∃ byte, buffer[position]? = some byte ∧ updateByte state buffer position =
      .ok (((), { state with currentByte := byte }), position + 1)) ∨
    (buffer.length ≤ position ∧
      updateByte state buffer position = .error IoFault.unexpectedEof) := by
  by_cases present : position < buffer.length
  · obtain ⟨byte, stands⟩ := Reader.StandsAt.exists_byte present
    have byteRead := (Reader.Reads.readU8 (ε := IoFault) byte).at stands
    refine .inl ⟨byte, ?_, ?_⟩
    · obtain ⟨before, after, rfl, rfl⟩ := stands
      simp
    · unfold updateByte
      rw [Reader.bind_ok byteRead]
      rfl
  · refine .inr ⟨Nat.not_lt.mp present, ?_⟩
    have starved : (Reader.readU8 : Reader IoFault UInt8) buffer position =
        .error IoFault.unexpectedEof := by
      unfold Reader.readU8 Reader.readUint
      rw [bind_apply, bind_apply, Reader.take, if_neg (by omega)]
      rfl
    unfold updateByte
    rw [bind_apply, starved]

/-- A seek forward stands behind the bits it passes, unless it begins a byte that is not
there. -/
theorem seekBits_cases {bit count : Nat} (standing : Standing buffer position state bit)
    (positive : 0 < count) :
    (∃ value next reached, seekBits count state buffer position = .ok ((value, next), reached) ∧
      Standing buffer reached next (bit + count)) ∨
    (8 * buffer.length < bit + count ∧ (bit + count) % 8 ≠ 0 ∧
      seekBits count state buffer position = .error IoFault.unexpectedEof) := by
  have inside := standing.inside
  -- The whole bytes to move by, less the one that the cursor has already left.
  obtain ⟨target, place, moved⟩ : ∃ target : Nat, bit + count = 8 * target +
      (state.bitPos + count) % 8 ∧ (position : Int) + (((state.bitPos : Int) + count).tdiv 8 -
        (if isAligned state then 0 else 1) - 0) = target := by
    rw [Int.tdiv_eq_ediv_of_nonneg (by omega)]
    by_cases aligned : state.bitPos = 0
    · have place := standing.aligned aligned
      rw [if_pos (isAligned_iff.mpr aligned)]
      exact ⟨position + (state.bitPos + count) / 8, by omega, by omega⟩
    · have place := (standing.begun aligned).1
      rw [if_neg fun shown => aligned (isAligned_iff.mp shown)]
      exact ⟨position + (state.bitPos + count) / 8 - 1, by omega, by omega⟩
  have remainder : ((state.bitPos : Int) + count).tmod 8 = ((state.bitPos + count) % 8 : Nat) := by
    rw [Int.tmod_eq_emod_of_nonneg (by omega)]
    omega
  have sign : ¬((state.bitPos : Int) + count).tmod 8 < 0 := by
    rw [remainder]
    omega
  have wrapped : ((8 + ((state.bitPos : Int) + count).tmod 8) % 8).toNat =
      (state.bitPos + count) % 8 := by
    rw [remainder]
    omega
  have sought {move : Int} (same : (position : Int) + move = target) :
      seekCurrent move buffer position = .ok (target, target) := by
    unfold seekCurrent
    rw [same, if_neg (by omega), Int.toNat_natCast]
  unfold seekBits
  rw [if_neg (by omega), if_neg sign, wrapped, Reader.bind_ok (sought moved)]
  by_cases whole : (state.bitPos + count) % 8 = 0
  · rw [if_pos whole]
    refine .inl ⟨_, _, _, rfl, ?_⟩
    exact {
      inside := by dsimp only; omega
      aligned := fun _ => by omega
      begun := fun partly => absurd whole partly }
  · rw [if_neg whole]
    rcases updateByte_cases { state with bitPos := (state.bitPos + count) % 8 } buffer target with
      ⟨byte, held, done⟩ | ⟨beyond, failed⟩
    · rw [Reader.bind_ok done]
      refine .inl ⟨_, _, _, rfl, ?_⟩
      exact {
        inside := by dsimp only; omega
        aligned := fun impossible => absurd impossible whole
        begun := fun _ => ⟨by dsimp only; omega, held⟩ }
    · refine .inr ⟨by omega, by omega, ?_⟩
      rw [bind_apply, failed]

/-! ## Codes -/

/-- Standing in front of the bits, the reader returns the value and stands behind them. -/
def Decodes (reader : BitReader α) (bits : List Bool) (value : α) : Prop :=
  ∀ (buffer : Bytes) (before after : List Bool) (position : Nat) (state : BitState),
    bytesBits buffer = before ++ (bits ++ after) → Standing buffer position state before.length →
      ∃ next stop, reader state buffer position = .ok ((value, next), stop) ∧
        Standing buffer stop next (before.length + bits.length)

namespace Decodes

theorem pure (value : α) : Decodes (pure value) [] value :=
  fun _ _ _ position state _ standing => ⟨state, position, rfl, standing⟩

theorem bind {bits rest : List Bool} {value : α} {result : β} (head : Decodes first bits value)
    (tail : Decodes (next value) rest result) : Decodes (first >>= next) (bits ++ rest) result := by
  intro buffer before after position state whole standing
  rw [List.append_assoc] at whole
  obtain ⟨middle, reached, done, there⟩ := head _ _ _ _ _ whole standing
  rw [← List.append_assoc] at whole
  rw [← List.length_append] at there
  obtain ⟨final, stop, finished, behind⟩ := tail _ _ _ _ _ whole there
  refine ⟨final, stop, (sequence_ok done).trans finished, ?_⟩
  rw [List.length_append, Nat.add_assoc, ← List.length_append] at behind
  exact behind

/-- The last reader of a sequence. -/
theorem finish {bits : List Bool} {value : α} {result : β} (head : Decodes first bits value)
    (tail : Decodes (next value) [] result) : Decodes (first >>= next) bits result := by
  have both := head.bind tail
  rw [List.append_nil] at both
  exact both

theorem map {bits : List Bool} {value : α} (change : α → β) (head : Decodes first bits value) :
    Decodes (do return change (← first)) bits (change value) :=
  head.finish (pure _)

theorem of_takes {reader : BitReader α} {count : Nat} {means : List Bool → α}
    (takes : Takes reader count means) {bits : List Bool} (size : bits.length = count) :
    Decodes reader bits (means bits) := by
  intro buffer before after position state whole standing
  have found : slice buffer before.length count = bits := by
    rw [slice, whole, List.drop_left, List.take_left' size]
  have enough : Enough buffer before.length count := by
    right
    rw [← length_bytesBits, whole]
    simp only [List.length_append]
    omega
  rcases takes _ _ _ _ standing with ⟨_, next, stop, done, there⟩ | ⟨short, _⟩
  · rw [found] at done
    rw [size]
    exact ⟨next, stop, done, there⟩
  · exact absurd enough short

theorem readBit (bit : Bool) : Decodes readBit [bit] bit := of_takes Takes.readBit rfl

theorem readBits {count number : Nat} (narrow : count ≤ 64) (small : number < 2 ^ count) :
    Decodes (readBits count) (toBits count number) (UInt64.ofNat number) := by
  have decodes : Decodes (BitReader.readBits count) (toBits count number) _ :=
    of_takes (Takes.readBits count) (by rw [length_toBits, Nat.min_eq_left narrow])
  rw [ofBits_toBits, Nat.mod_eq_of_lt small] at decodes
  exact decodes

/-- A seek forward passes the bits. -/
theorem seekBits {count : Nat} {bits rest : List Bool} {next : Nat → BitReader β} {result : β}
    (size : bits.length = count) (tail : ∀ value, Decodes (next value) rest result) :
    Decodes (seekBits count >>= next) (bits ++ rest) result := by
  cases count with
  | zero =>
      have empty : bits = [] := List.eq_nil_of_length_eq_zero size
      subst empty
      intro buffer before after position state whole standing
      have done : BitReader.seekBits (0 : Nat) state buffer position =
          .ok ((position * 8 + (if isAligned state then 8 else state.bitPos) - 8, state), position) :=
        rfl
      rw [sequence_ok done]
      exact tail _ _ _ _ _ _ whole standing
  | succ count =>
      intro buffer before after position state whole standing
      have enough : before.length + (count + 1) ≤ 8 * buffer.length := by
        rw [← length_bytesBits, whole]
        simp only [List.length_append]
        omega
      rcases seekBits_cases standing (Nat.succ_pos count) with
        ⟨value, middle, reached, done, there⟩ | ⟨beyond, _⟩
      · rw [List.append_assoc, ← List.append_assoc] at whole
        change Standing buffer reached middle (before.length + (count + 1)) at there
        rw [← size, ← List.length_append] at there
        obtain ⟨final, stop, finished, behind⟩ := tail value _ _ _ _ _ whole there
        refine ⟨final, stop, (sequence_ok done).trans finished, ?_⟩
        rw [List.length_append, Nat.add_assoc, ← List.length_append] at behind
        exact behind
      · omega

theorem readExact (bytes : Bytes) : Decodes (readExact bytes.length) (bytesBits bytes) bytes := by
  intro buffer before after position state whole standing
  unfold BitReader.readExact
  by_cases aligned : state.bitPos = 0
  · have place := standing.aligned aligned
    have found : slice buffer before.length (8 * bytes.length) = bytesBits bytes := by
      rw [slice, whole, List.drop_left, List.take_left' (length_bytesBits bytes)]
    rw [place, ← bytesBits_drop_take] at found
    have present : position + bytes.length ≤ buffer.length := by
      have size := congrArg List.length whole
      simp only [List.length_append, length_bytesBits] at size
      omega
    have taken : (Reader.take bytes.length : Reader IoFault Bytes) buffer position =
        .ok (bytes, position + bytes.length) := by
      unfold Reader.take
      rw [if_pos present, bytesBits_injective found]
    rw [if_pos (isAligned_iff.mpr aligned), Reader.bind_ok taken]
    refine ⟨state, _, rfl, ?_⟩
    rw [length_bytesBits]
    exact {
      inside := standing.inside
      aligned := fun _ => by omega
      begun := fun impossible => absurd aligned impossible }
  · rw [if_neg fun shown => aligned (isAligned_iff.mp shown)]
    have decodes := of_takes (Takes.repeatedUnaligned bytes.length) (length_bytesBits bytes)
    rw [bitsBytes_bytesBits] at decodes
    exact decodes _ _ _ _ _ whole standing

theorem readU8 (number : UInt8) : Decodes readU8 (byteBits number) number := by
  have decodes := (readExact [number]).map fun bytes => UInt8.ofNat (ofBytesBE bytes)
  rw [bytesBits_cons, bytesBits_nil, List.append_nil] at decodes
  have same : UInt8.ofNat (ofBytesBE [number]) = number := by
    change UInt8.ofNat (0 * 256 + number.toNat) = number
    rw [Nat.zero_mul, Nat.zero_add, UInt8.ofNat_toNat]
  rw [same] at decodes
  exact decodes

theorem readU16 (number : UInt16) : Decodes readU16 (bytesBits (beU16 number)) number := by
  have decodes := (readExact (beU16 number)).map fun bytes => UInt16.ofNat (ofBytesBE bytes)
  have small : number.toNat % 256 ^ 2 = number.toNat := Nat.mod_eq_of_lt number.toNat_lt
  rw [beU16, ofBytesBE_toBytesBE, small, UInt16.ofNat_toNat] at decodes
  exact decodes

theorem readU32 (number : UInt32) : Decodes readU32 (bytesBits (beU32 number)) number := by
  have decodes := (readExact (beU32 number)).map fun bytes => UInt32.ofNat (ofBytesBE bytes)
  have small : number.toNat % 256 ^ 4 = number.toNat := Nat.mod_eq_of_lt number.toNat_lt
  rw [beU32, ofBytesBE_toBytesBE, small, UInt32.ofNat_toNat] at decodes
  exact decodes

theorem readU32LE (number : UInt32) :
    Decodes readU32LE (bytesBits (toBytesLE 4 number.toNat)) number := by
  have decodes := (readExact (toBytesLE 4 number.toNat)).map
    fun bytes => UInt32.ofNat (ofBytesLE bytes)
  have small : number.toNat % 256 ^ 4 = number.toNat := Nat.mod_eq_of_lt number.toNat_lt
  rw [length_toBytesLE, ofBytesLE_toBytesLE, small, UInt32.ofNat_toNat] at decodes
  exact decodes

theorem readU48LE {number : UInt64} (small : number.toNat < 2 ^ 48) :
    Decodes readU48LE (bytesBits (toBytesLE 6 number.toNat)) number := by
  have decodes := (readExact (toBytesLE 6 number.toNat)).map
    fun bytes => UInt64.ofNat (ofBytesLE bytes)
  have whole : number.toNat % 256 ^ 6 = number.toNat := Nat.mod_eq_of_lt small
  rw [length_toBytesLE, ofBytesLE_toBytesLE, whole, UInt64.ofNat_toNat] at decodes
  exact decodes

/-- Codes one after the other, with what the reader makes of each. -/
theorem repeatedlyMap {reader : BitReader β} {encode : α → List Bool} {means : α → β}
    {values : List α} (each : ∀ value ∈ values, Decodes reader (encode value) (means value)) :
    Decodes (repeatedly reader values.length) (values.flatMap encode) (values.map means) := by
  induction values with
  | nil => exact pure []
  | cons value values ih =>
      rw [List.forall_mem_cons] at each
      rw [List.flatMap_cons]
      apply each.1.bind
      exact (ih each.2).finish (pure _)

theorem repeatedly {reader : BitReader α} {encode : α → List Bool} {values : List α}
    (each : ∀ value ∈ values, Decodes reader (encode value) value) :
    Decodes (repeatedly reader values.length) (values.flatMap encode) values := by
  have decodes := repeatedlyMap each
  rw [List.map_id'] at decodes
  exact decodes

/-- A reader that decodes all of a buffer from its start. -/
theorem run {reader : BitReader α} {value : α} {bytes : Bytes} {bits rest : List Bool}
    (decodes : Decodes reader bits value) (whole : bytesBits bytes = bits ++ rest) :
    ∃ state stop, run reader bytes 0 = .ok ((value, state), stop) ∧
      Standing bytes stop state bits.length := by
  have done := decodes bytes [] rest 0 ⟨0, 0⟩ whole (Standing.start bytes)
  rw [List.length_nil, Nat.zero_add] at done
  exact done

end Decodes

/-- Standing in front of the bits, the reader fails. -/
def Fails (reader : BitReader α) (bits : List Bool) (fault : IoFault) : Prop :=
  ∀ (buffer : Bytes) (before after : List Bool) (position : Nat) (state : BitState),
    bytesBits buffer = before ++ (bits ++ after) → Standing buffer position state before.length →
      reader state buffer position = .error fault

theorem Decodes.bindFails {bits rest : List Bool} {value : α} {fault : IoFault}
    (head : Decodes first bits value) (tail : Fails (next value) rest fault) :
    Fails (first >>= next) (bits ++ rest) fault := by
  intro buffer before after position state whole standing
  rw [List.append_assoc] at whole
  obtain ⟨middle, reached, done, there⟩ := head _ _ _ _ _ whole standing
  rw [← List.append_assoc] at whole
  rw [← List.length_append] at there
  exact (sequence_ok done).trans (tail _ _ _ _ _ whole there)

/-- Standing in front of the bits, the reader moves by as many as it does, unless it fails. -/
def Lands (reader : BitReader α) (bits : List Bool) (count : Nat) : Prop :=
  ∀ (buffer : Bytes) (before after : List Bool) (position : Nat) (state : BitState),
    bytesBits buffer = before ++ (bits ++ after) → Standing buffer position state before.length →
      ∀ value last stop, reader state buffer position = .ok ((value, last), stop) →
        Standing buffer stop last (before.length + count)

theorem Decodes.bindLands {bits rest : List Bool} {value : α} {count : Nat}
    (head : Decodes first bits value) (tail : Lands (next value) rest count) :
    Lands (first >>= next) (bits ++ rest) (bits.length + count) := by
  intro buffer before after position state whole standing result last stop done
  rw [List.append_assoc] at whole
  obtain ⟨middle, reached, read, there⟩ := head _ _ _ _ _ whole standing
  rw [← List.append_assoc] at whole
  rw [← List.length_append] at there
  rw [sequence_ok read] at done
  have landed := tail _ _ _ _ _ whole there _ _ _ done
  rw [List.length_append, Nat.add_assoc] at landed
  exact landed

theorem Lands.map {bits : List Bool} {count : Nat} (change : α → β) (lands : Lands first bits count) :
    Lands (do return change (← first)) bits count := by
  intro buffer before after position state whole standing result last stop done
  obtain ⟨value, middle, reached, read, same⟩ := sequence_ok_iff.mp done
  cases same
  exact lands _ _ _ _ _ whole standing _ _ _ read

/-- A place is told by the cursor and the state. -/
theorem Standing.unique {bit other : Nat} (standing : Standing buffer position state bit)
    (also : Standing buffer position state other) : bit = other := by
  by_cases aligned : state.bitPos = 0
  · rw [standing.aligned aligned, also.aligned aligned]
  · have first := (standing.begun aligned).1
    have second := (also.begun aligned).1
    omega

/-- A place behind the end of the buffer is the start of a byte. -/
theorem Standing.aligned_of_beyond {bit : Nat} (standing : Standing buffer position state bit)
    (beyond : 8 * buffer.length < bit) : bit % 8 = 0 := by
  by_cases aligned : state.bitPos = 0
  · have place := standing.aligned aligned
    omega
  · obtain ⟨place, held⟩ := standing.begun aligned
    have inside := standing.inside
    obtain ⟨within, _⟩ := List.getElem?_eq_some_iff.mp held
    omega

theorem Fails.run {reader : BitReader α} {fault : IoFault} {bytes : Bytes} {bits rest : List Bool}
    (fails : Fails reader bits fault) (whole : bytesBits bytes = bits ++ rest) :
    BitReader.run reader bytes 0 = .error fault :=
  fails bytes [] rest 0 ⟨0, 0⟩ whole (Standing.start bytes)

end BitReader

end ScuffleVideo.Wire
