import ScuffleVideo.Wire.Crashing
import ScuffleVideo.Wire.EmulationPrevention
import ScuffleVideo.Wire.ExpGolomb

/-!
# Walks along bits

A reader that traps its arithmetic crashes or not depending on the bits in front of it.  A walk is
the condition on these bits: it goes along the fields as the reader does, requires every number on
the way to be in its range, and is content where the reader ends with an error.  Walks are predicate
transformers and compose as readers do; a reader that follows a walk crashes exactly where the walk
does not hold.
-/

namespace ScuffleVideo.Wire

/-- What some bits have to be like, if the value read from them and the bits behind it have to be
as given. -/
def Walk (α : Type) : Type := (α → List Bool → Prop) → List Bool → Prop

namespace Walk

variable {α : Type}

instance : Monad Walk where
  pure value := fun next => next value
  bind first second := fun next => first fun value => second value next

/-- An error ends the way. -/
def stop : Walk α := fun _ _ => True

def require (holds : Prop) : Walk Unit := fun next bits => holds ∧ next () bits

/-- Some bits, which are there or not. -/
def take (count : Nat) (means : List Bool → α) : Walk α := fun next bits =>
  count = 0 ∨ count ≤ bits.length → next (means (bits.take count)) (bits.drop count)

def bit : Walk Bool := take 1 fun bits => bits.headD false

def number (count : Nat) : Walk UInt64 := take (min count 64) fun bits => UInt64.ofNat (ofBits bits)

def bytes (count : Nat) : Walk Bytes := take (8 * count) (bitsBytes count)

def u8 : Walk UInt8 := do return UInt8.ofNat (ofBytesBE (← bytes 1))

def u32 : Walk UInt32 := do return UInt32.ofNat (ofBytesBE (← bytes 4))

/-- A move past the end is an error only if it stops inside a byte. -/
def skip (count : Nat) : Walk Unit := fun next bits =>
  count ≤ bits.length ∨ (count - bits.length) % 8 = 0 → next () (bits.drop count)

def optionally (present : Bool) (walk : Walk α) : Walk (Option α) :=
  if present then (do return some (← walk)) else pure none

def repeatedly (walk : Walk α) : Nat → Walk (List α)
  | 0 => pure []
  | count + 1 => do
      let value ← walk
      let values ← repeatedly walk count
      return value :: values

def refuse (wrong : Bool) : Walk Unit := if wrong then stop else pure ()

/-- Arithmetic whose result has to be an unsigned 64-bit number. -/
def u64 (value : Int) : Walk Nat := do
  require (0 ≤ value ∧ value < 2 ^ 64)
  return value.toNat

def i64 (value : Int) : Walk Int := do
  require (-2 ^ 63 ≤ value ∧ value < 2 ^ 63)
  return value

/-- The zeros in front of the first one, which have to be fewer than a signed 32-bit number
counts. -/
def leadingZeros : Walk Int := fun next bits =>
  (bits.takeWhile not).length < 2 ^ 31 ∧ ((bits.takeWhile not).length < bits.length →
    next (bits.takeWhile not).length (bits.drop ((bits.takeWhile not).length + 1)))

/-- The number of an exponential Golomb code.  Of a one and the bits behind it the lowest 64 are
kept, which must not be zero. -/
def expGolomb : Walk UInt64 := do
  let zeros ← leadingZeros
  let result ← take zeros.toNat fun bits =>
    UInt64.ofNat (bits.foldl (fun total bit => total * 2 + bit.toNat) 1)
  let number ← u64 (result.toNat - 1)
  return UInt64.ofNat number

def signedExpGolomb : Walk Int := do
  let code ← expGolomb
  if code.toNat % 2 = 0 then return -(code.toNat / 2 : Nat)
  else i64 ((code.toNat / 2 : Nat) + 1)

end Walk

namespace BitReader

open BitCursor (asU64 asI64)
open Walk (stop require)

variable {α β : Type}

/-! ## Counting zeros -/

/-- The zeros in front of the first one behind a place. -/
def zerosAt (buffer : Bytes) (bit : Nat) : Nat := (((bytesBits buffer).drop bit).takeWhile not).length

section ZerosAt

variable {buffer : Bytes} {bit : Nat}

theorem zerosAt_of_end (nothing : 8 * buffer.length ≤ bit) : zerosAt buffer bit = 0 := by
  rw [zerosAt, List.drop_eq_nil_of_le (by rw [length_bytesBits]; exact nothing)]
  rfl

theorem zerosAt_of_one {within : bit < (bytesBits buffer).length}
    (shown : (bytesBits buffer)[bit] = true) : zerosAt buffer bit = 0 := by
  rw [zerosAt, List.drop_eq_getElem_cons within, shown]
  rfl

theorem zerosAt_of_zero {within : bit < (bytesBits buffer).length}
    (shown : (bytesBits buffer)[bit] = false) :
    zerosAt buffer bit = zerosAt buffer (bit + 1) + 1 := by
  rw [zerosAt, List.drop_eq_getElem_cons within, shown]
  rfl

/-- One bit is read where there is one. -/
theorem readBit_cases {position : Nat} {state : BitState} (standing : Standing buffer position state bit) :
    (∃ (within : bit < (bytesBits buffer).length) (middle : BitState) (reached : Nat),
      readBit state buffer position = .ok (((bytesBits buffer)[bit], middle), reached) ∧
        Standing buffer reached middle (bit + 1)) ∨
    (8 * buffer.length ≤ bit ∧ ∃ fault, readBit state buffer position = .error fault ∧
      fault.isReturned = true) := by
  rcases Takes.readBit _ _ _ _ standing with ⟨present, middle, reached, read, there⟩ |
    ⟨absent, fault, failed⟩
  · unfold Enough at present
    have within : bit < (bytesBits buffer).length := by
      rw [length_bytesBits]
      omega
    rw [slice, List.drop_eq_getElem_cons within] at read
    exact .inl ⟨within, middle, reached, read, there⟩
  · unfold Enough at absent
    exact .inr ⟨by omega, fault, failed, Returns.readBit.returned state |>.returned _ _ _ failed⟩

end ZerosAt

/-- The loop takes a step for every zero that is left, if it has a round for every bit and one more.
It crashes at the step that has no result. -/
theorem tally_cases {step : α → Reader IoFault α} {total : Nat → α} {limit : Nat}
    (steps : ∀ zeros, zeros + 1 < limit → step (total zeros) = pure (total (zeros + 1)))
    (trap : ∀ zeros, zeros + 1 = limit → step (total zeros) = Reader.fail .panic)
    {buffer : Bytes} {rounds zeros : Nat} {position bit : Nat} {state : BitState}
    (standing : Standing buffer position state bit) (few : zeros < limit)
    (enough : 8 * buffer.length - bit < rounds) {found : Nat}
    (counted : zerosAt buffer bit = found) :
    (zeros + found < limit ∧ found < 8 * buffer.length - bit ∧ ∃ last stop,
      tally step rounds (total zeros) state buffer position =
        .ok ((total (zeros + found), last), stop) ∧
      Standing buffer stop last (bit + (found + 1))) ∨
    (zeros + found < limit ∧ 8 * buffer.length - bit ≤ found ∧ ∃ fault,
      tally step rounds (total zeros) state buffer position = .error fault ∧
        fault.isReturned = true) ∨
    (limit ≤ zeros + found ∧
      tally step rounds (total zeros) state buffer position = .error .panic) := by
  induction rounds generalizing zeros position bit state found with
  | zero => omega
  | succ rounds ih =>
      rcases readBit_cases standing with ⟨within, middle, reached, read, there⟩ |
        ⟨nothing, fault, failed, returned⟩
      · have here : bit < 8 * buffer.length := by
          rw [length_bytesBits] at within
          exact within
        cases shown : (bytesBits buffer)[bit] with
        | true =>
            rw [zerosAt_of_one shown] at counted
            subst counted
            rw [shown] at read
            refine .inl ⟨few, by omega, middle, reached, ?_, there⟩
            exact (sequence_ok read).trans rfl
        | false =>
            rw [zerosAt_of_zero shown] at counted
            rw [shown] at read
            unfold tally
            rw [sequence_ok read, if_neg Bool.false_ne_true]
            by_cases room : zeros + 1 < limit
            · rw [between_bind (steps zeros room)]
              have rest := ih there room (by omega) rfl
              have all : zeros + 1 + zerosAt buffer (bit + 1) = zeros + found := by omega
              have place : bit + 1 + (zerosAt buffer (bit + 1) + 1) = bit + (found + 1) := by omega
              rw [all, place] at rest
              rcases rest with ⟨small, more, done⟩ | ⟨small, none, done⟩ | trapped
              · exact .inl ⟨small, by omega, done⟩
              · exact .inr (.inl ⟨small, by omega, done⟩)
              · exact .inr (.inr trapped)
            · refine .inr (.inr ⟨by omega, ?_⟩)
              rw [trap zeros (by omega)]
              rfl
      · rw [zerosAt_of_end nothing] at counted
        subst counted
        exact .inr (.inl ⟨few, by omega, fault, sequence_error failed, returned⟩)

/-- A loop that ended has passed the zeros and the one. -/
theorem standing_of_tally {step : α → Reader IoFault α}
    (still : ∀ total buffer position next stop,
      step total buffer position = .ok (next, stop) → stop = position)
    {buffer : Bytes} {rounds : Nat} {total result : α} {position stop bit : Nat} {state last : BitState}
    (standing : Standing buffer position state bit)
    (done : tally step rounds total state buffer position = .ok ((result, last), stop)) :
    zerosAt buffer bit < 8 * buffer.length - bit ∧
      Standing buffer stop last (bit + (zerosAt buffer bit + 1)) := by
  induction rounds generalizing total position bit state with
  | zero => cases done
  | succ rounds ih =>
      obtain ⟨value, middle, reached, read, more⟩ := sequence_ok_iff.mp done
      rcases readBit_cases standing with ⟨within, _, _, again, there⟩ | ⟨_, fault, failed, _⟩
      · cases read.symm.trans again
        have here : bit < 8 * buffer.length := by
          rw [length_bytesBits] at within
          exact within
        cases shown : (bytesBits buffer)[bit] with
        | true =>
            rw [shown] at more
            cases more
            rw [zerosAt_of_one shown]
            exact ⟨by omega, there⟩
        | false =>
            rw [shown, if_neg Bool.false_ne_true] at more
            obtain ⟨next, again, same, stepped, rest⟩ := sequence_ok_iff.mp more
            obtain ⟨value, place, taken, moved⟩ := Reader.bind_eq_ok_iff.mp stepped
            obtain rfl := still _ _ _ _ _ taken
            cases moved
            obtain ⟨inside, behind⟩ := ih there rest
            rw [zerosAt_of_zero shown]
            refine ⟨by omega, ?_⟩
            rw [Nat.add_assoc bit 1, Nat.add_comm 1] at behind
            exact behind
      · cases read.symm.trans failed

/-- A reader that stands at a bit counts the zeros behind it, in 31 bits. -/
theorem leadingZeros_cases {buffer : Bytes} {position bit : Nat} {state : BitState}
    (standing : Standing buffer position state bit) :
    (zerosAt buffer bit < 2 ^ 31 ∧ zerosAt buffer bit < 8 * buffer.length - bit ∧
      ∃ last stop, leadingZeros .on state buffer position =
          .ok (((zerosAt buffer bit : Int), last), stop) ∧
        Standing buffer stop last (bit + (zerosAt buffer bit + 1))) ∨
    (zerosAt buffer bit < 2 ^ 31 ∧ 8 * buffer.length - bit ≤ zerosAt buffer bit ∧
      ∃ fault, leadingZeros .on state buffer position = .error fault ∧ fault.isReturned = true) ∨
    (2 ^ 31 ≤ zerosAt buffer bit ∧ leadingZeros .on state buffer position = .error .panic) := by
  have steps (zeros : Nat) (room : zeros + 1 < 2 ^ 31) :
      asI32 .on ((zeros : Int) + 1) = pure ((zeros + 1 : Nat) : Int) :=
    asI32_of_lt .on (by omega) (by omega)
  have trap (zeros : Nat) (full : zeros + 1 = 2 ^ 31) :
      asI32 .on ((zeros : Int) + 1) = Reader.fail .panic := by
    unfold asI32
    rw [if_neg (by omega)]
  have counted := @tally_cases Int (fun zeros => asI32 .on (zeros + 1)) (fun zeros => zeros) (2 ^ 31)
    steps trap buffer (8 * buffer.length + 8) 0 position bit state standing (by decide) (by omega) _ rfl
  rw [Nat.zero_add] at counted
  unfold leadingZeros
  rw [countZeros_eq_tally]
  exact counted

/-! ## Following a walk -/

/-- Standing at a bit, the reader returns a value exactly where the walk goes on with it, and
crashes exactly where the walk does not hold. -/
def Follows (reader : BitReader α) (walk : Walk α) : Prop :=
  ∀ (buffer : Bytes) (position : Nat) (state : BitState) (bit : Nat),
    Standing buffer position state bit →
      (∃ value last stop behind, reader state buffer position = .ok ((value, last), stop) ∧
        Standing buffer stop last behind ∧
        ∀ next, walk next ((bytesBits buffer).drop bit) ↔ next value ((bytesBits buffer).drop behind)) ∨
      (∃ fault, reader state buffer position = .error fault ∧ fault.isReturned = true ∧
        ∀ next, walk next ((bytesBits buffer).drop bit)) ∨
      (∃ fault, reader state buffer position = .error fault ∧ fault.isReturned = false ∧
        ∀ next, ¬walk next ((bytesBits buffer).drop bit))

namespace Follows

theorem pure (value : α) : Follows (pure value) (pure value) :=
  fun _ position state bit standing =>
    .inl ⟨value, state, position, bit, rfl, standing, fun _ => Iff.rfl⟩

theorem bind {first : BitReader α} {next : α → BitReader β} {walk : Walk α} {more : α → Walk β}
    (head : Follows first walk) (tail : ∀ value, Follows (next value) (more value)) :
    Follows (first >>= next) (walk >>= more) := by
  intro buffer position state bit standing
  rcases head _ _ _ _ standing with ⟨value, middle, reached, behind, read, there, goes⟩ |
    ⟨fault, failed, returned, holds⟩ | ⟨fault, failed, crashed, broken⟩
  · rcases tail value _ _ _ _ there with ⟨result, last, stop, final, done, standingLast, ends⟩ |
      ⟨fault, failed, returned, holds⟩ | ⟨fault, failed, crashed, broken⟩
    · exact .inl ⟨result, last, stop, final, (sequence_ok read).trans done, standingLast,
        fun next => (goes _).trans (ends next)⟩
    · exact .inr (.inl ⟨fault, (sequence_ok read).trans failed, returned,
        fun next => (goes _).mpr (holds next)⟩)
    · exact .inr (.inr ⟨fault, (sequence_ok read).trans failed, crashed,
        fun next walked => broken next ((goes _).mp walked)⟩)
  · exact .inr (.inl ⟨fault, sequence_error failed, returned, fun _ => holds _⟩)
  · exact .inr (.inr ⟨fault, sequence_error failed, crashed, fun _ => broken _⟩)

theorem ofTakes {reader : BitReader α} [all : Returns reader] {count : Nat} {means : List Bool → α}
    (takes : Takes reader count means) : Follows reader (Walk.take count means) := by
  intro buffer position state bit standing
  have length : ((bytesBits buffer).drop bit).length = 8 * buffer.length - bit := by
    rw [List.length_drop, length_bytesBits]
  rcases takes _ _ _ _ standing with ⟨enough, last, stop, read, there⟩ | ⟨short, fault, failed⟩
  · refine .inl ⟨_, last, stop, _, read, there, fun next => ?_⟩
    unfold Walk.take
    rw [List.drop_drop, imp_iff_right (by unfold Enough at enough; omega)]
    rfl
  · refine .inr (.inl ⟨fault, failed, (all.returned state).returned _ _ _ failed, fun next there => ?_⟩)
    exact absurd (show Enough buffer bit count by unfold Enough; omega) short

theorem readBit : Follows readBit Walk.bit := ofTakes Takes.readBit

theorem readBits (count : Nat) : Follows (readBits count) (Walk.number count) :=
  ofTakes (Takes.readBits count)

theorem readExact {count : Nat} (positive : 0 < count) :
    Follows (readExact count) (Walk.bytes count) := by
  apply ofTakes
  intro buffer position state bit standing
  unfold BitReader.readExact
  by_cases aligned : state.bitPos = 0
  · have place := standing.aligned aligned
    rw [if_pos (isAligned_iff.mpr aligned)]
    by_cases present : position + count ≤ buffer.length
    · have length : ((buffer.drop position).take count).length = count := by
        rw [List.length_take, List.length_drop]
        omega
      have found := bitsBytes_bytesBits ((buffer.drop position).take count)
      rw [length, bytesBits_drop_take, ← place] at found
      have taken : (Reader.take count : Reader IoFault Bytes) buffer position =
          .ok ((buffer.drop position).take count, position + count) := if_pos present
      refine .inl ⟨.inr (by omega), state, position + count, ?_, ?_⟩
      · rw [Reader.bind_ok taken, found]
        rfl
      · exact {
          inside := standing.inside
          aligned := fun _ => by omega
          begun := fun impossible => absurd aligned impossible }
    · refine .inr ⟨by unfold Enough; omega, .unexpectedEof, ?_⟩
      have starved : (Reader.take count : Reader IoFault Bytes) buffer position =
          .error .unexpectedEof := if_neg present
      rw [Reader.bind_apply, starved]
  · rw [if_neg fun shown => aligned (isAligned_iff.mp shown)]
    exact Takes.repeatedUnaligned count _ _ _ _ standing

theorem readU8 : Follows readU8 Walk.u8 := (readExact (by decide)).bind fun _ => pure _

theorem readU32 : Follows readU32 Walk.u32 := (readExact (by decide)).bind fun _ => pure _

theorem ite {condition : Prop} [Decidable condition] {first second : BitReader α}
    {walk other : Walk α} (yes : Follows first walk) (no : Follows second other) :
    Follows (if condition then first else second) (if condition then walk else other) := by
  split
  · exact yes
  · exact no

theorem optionally {reader : BitReader α} {walk : Walk α} (present : Bool)
    (each : Follows reader walk) : Follows (optionally present reader) (Walk.optionally present walk) :=
  ite (each.bind fun value => pure (some value)) (pure none)

theorem repeatedly {reader : BitReader α} {walk : Walk α} (each : Follows reader walk) (count : Nat) :
    Follows (repeatedly reader count) (Walk.repeatedly walk count) := by
  induction count with
  | zero => exact pure []
  | succ count ih => exact each.bind fun value => ih.bind fun values => pure (value :: values)

theorem fail {fault : IoFault} (returned : fault.isReturned = true) :
    Follows (between (Reader.fail fault : Reader IoFault α)) stop :=
  fun _ _ _ _ _ => .inr (.inl ⟨fault, rfl, returned, fun _ => trivial⟩)

theorem refuse (wrong : Bool) (message : String) :
    Follows (refuse wrong message) (Walk.refuse wrong) := by
  cases wrong with
  | true => exact fail rfl
  | false => exact pure ()

theorem skipBits {count : Nat} (positive : 0 < count) : Follows (skipBits count) (Walk.skip count) := by
  intro buffer position state bit standing
  have length : ((bytesBits buffer).drop bit).length = 8 * buffer.length - bit := by
    rw [List.length_drop, length_bytesBits]
  have start := standing.aligned_of_beyond
  rcases seekBits_cases standing positive with ⟨value, last, stop, sought, there⟩ |
    ⟨beyond, inside, failed⟩
  · have stopped := there.aligned_of_beyond
    refine .inl ⟨(), last, stop, _, sequence_ok sought, there, fun next => ?_⟩
    unfold Walk.skip
    rw [List.drop_drop, imp_iff_right (by omega)]
  · refine .inr (.inl ⟨.unexpectedEof, ?_, rfl, fun next there => ?_⟩)
    · exact sequence_error failed
    · omega

/-! ## Arithmetic -/

theorem asU64 (value : Int) : Follows (between (asU64 .on value)) (Walk.u64 value) := by
  intro buffer position state bit standing
  by_cases inside : 0 ≤ value ∧ value < 2 ^ 64
  · refine .inl ⟨value.toNat, state, position, bit, ?_, standing, fun next => and_iff_right inside⟩
    unfold between BitCursor.asU64
    rw [if_pos ⟨inside.1, by omega⟩]
    rfl
  · refine .inr (.inr ⟨.panic, ?_, rfl, fun next walked => inside walked.1⟩)
    unfold between BitCursor.asU64
    rw [if_neg (by omega)]
    rfl

theorem asI64 (value : Int) : Follows (between (asI64 .on value)) (Walk.i64 value) := by
  intro buffer position state bit standing
  by_cases inside : -2 ^ 63 ≤ value ∧ value < 2 ^ 63
  · refine .inl ⟨value, state, position, bit, ?_, standing, fun next => and_iff_right inside⟩
    unfold between BitCursor.asI64
    rw [if_pos inside]
    rfl
  · refine .inr (.inr ⟨.panic, ?_, rfl, fun next walked => inside walked.1⟩)
    unfold between BitCursor.asI64
    rw [if_neg inside]
    rfl

/-- Arithmetic in steps. -/
theorem betweenBind {first : Reader IoFault α} {next : α → Reader IoFault β} {walk : Walk α}
    {more : α → Walk β} (head : Follows (between first) walk)
    (tail : ∀ value, Follows (between (next value)) (more value)) :
    Follows (between (first >>= next)) (walk >>= more) := by
  have split : between (first >>= next) = (between first >>= fun value => between (next value)) := by
    funext state buffer position
    rw [sequence_apply]
    unfold between
    rw [Reader.bind_apply, Reader.bind_apply, Reader.bind_apply]
    cases first buffer position with
    | error fault => rfl
    | ok pair => rfl
  rw [split]
  exact head.bind tail

theorem betweenPure (value : α) : Follows (between (Pure.pure value)) (Pure.pure value) := pure value

/-! ## Exponential Golomb codes -/

theorem leadingZeros : Follows (leadingZeros .on) Walk.leadingZeros := by
  intro buffer position state bit standing
  have length : ((bytesBits buffer).drop bit).length = 8 * buffer.length - bit := by
    rw [List.length_drop, length_bytesBits]
  rcases leadingZeros_cases standing with ⟨small, one, last, stop, read, there⟩ | ⟨small, none, fault, failed, returned⟩ |
    ⟨many, failed⟩
  · refine .inl ⟨_, last, stop, _, read, there, fun next => ?_⟩
    unfold Walk.leadingZeros
    rw [length, List.drop_drop]
    exact (and_iff_right small).trans (imp_iff_right one)
  · refine .inr (.inl ⟨fault, failed, returned, fun next => ⟨small, fun one => ?_⟩⟩)
    rw [length] at one
    exact absurd none (Nat.not_le.mpr one)
  · exact .inr (.inr ⟨.panic, failed, rfl, fun next walked => absurd many (Nat.not_le.mpr walked.1)⟩)

theorem readExpGolomb : Follows (readExpGolomb .on) Walk.expGolomb :=
  leadingZeros.bind fun zeros => (ofTakes (Takes.readBitsInto zeros.toNat 1)).bind fun _ =>
    (asU64 _).bind fun _ => pure _

theorem readSignedExpGolomb : Follows (readSignedExpGolomb .on) Walk.signedExpGolomb :=
  readExpGolomb.bind fun _ => ite (pure _) (asI64 _)

end Follows

section

variable {reader : BitReader α} {walk : Walk α} (follows : Follows reader walk)

include follows

/-- A reader that follows a walk crashes exactly if the walk does not hold of its bits. -/
theorem Follows.not_crashes_iff (bytes : Bytes) :
    ¬Crashes (run reader bytes 0) ↔ walk (fun _ _ => True) (bytesBits bytes) := by
  rcases follows _ _ _ _ (Standing.start bytes) with ⟨value, last, stop, behind, read, _, goes⟩ |
    ⟨fault, failed, returned, holds⟩ | ⟨fault, failed, crashed, broken⟩
  · refine iff_of_true ?_ ((goes _).mpr trivial)
    unfold run
    rw [read]
    exact not_crashes_ok _
  · refine iff_of_true ?_ (holds _)
    rintro ⟨other, same, crashed⟩
    obtain rfl := Except.error.inj (failed.symm.trans same)
    rw [returned] at crashed
    cases crashed
  · exact iff_of_false (not_not_intro ⟨fault, failed, crashed⟩) (broken _)

/-- It ends with an error exactly if the walk stops. -/
theorem Follows.refused_iff (bytes : Bytes) :
    (∃ fault, run reader bytes 0 = .error fault ∧ fault.isReturned = true) ↔
      walk (fun _ _ => False) (bytesBits bytes) := by
  rcases follows _ _ _ _ (Standing.start bytes) with ⟨value, last, stop, behind, read, _, goes⟩ |
    ⟨fault, failed, returned, holds⟩ | ⟨fault, failed, crashed, broken⟩
  · refine iff_of_false ?_ fun walked => (goes _).mp walked
    rintro ⟨fault, failed, _⟩
    cases read.symm.trans failed
  · exact iff_of_true ⟨fault, failed, returned⟩ (holds _)
  · refine iff_of_false ?_ (broken _)
    rintro ⟨other, same, returned⟩
    obtain rfl := Except.error.inj (failed.symm.trans same)
    rw [returned] at crashed
    cases crashed

/-- A unit whose bytes are read without emulation prevention. -/
theorem Follows.unit_not_crashes_iff (data : Bytes) :
    ¬Crashes (do
      let bytes ← unescape data
      let (value, _) ← (run reader).parse bytes
      return value) ↔
    3 ≤ data.length ∧ walk (fun _ _ => True) (bytesBits (unescapeFrom data)) := by
  unfold unescape
  by_cases short : data.length < 3
  · rw [if_pos short]
    exact iff_of_false (not_not_intro ⟨.panic, rfl, rfl⟩) fun both => by omega
  · rw [if_neg short, and_iff_right (Nat.not_lt.mp short), ← follows.not_crashes_iff]
    exact not_congr ((crashes_map Prod.fst).trans Reader.crashes_parse)

end

end BitReader

end ScuffleVideo.Wire
