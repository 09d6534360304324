import ScuffleVideo.Concurrent.Run
import ScuffleVideo.Wire.BitCursor

/-!
# A bit reader behind a failed operation

An operation that fails leaves a reader that can still be used.  The cursor, the place in the
byte at hand and that byte are kept here also where an operation returns an error, so that what
a later read returns can be told.

An operation that keeps the device succeeds and fails as the operation that forgets it does.
What it leaves stands at a bit of the slice again, unless a seek has set a place inside a byte
that is not there: then the reader still holds an older byte.
-/

namespace ScuffleVideo.Wire

/-- The cursor over a slice, and the state of the reader. -/
structure BitDevice where
  position : Nat
  state : BitState
  deriving DecidableEq, Repr

namespace BitDevice

open BitReader (isAligned slice Standing Enough)
open BitCursor (Operation Outcome Shows asU64 asI64 seekTo seekCursor)
open Concurrent (Run)

def start : BitDevice := ⟨0, ⟨0, 0⟩⟩

/-- A computation that leaves a device also where it fails. -/
abbrev Kept := EStateM IoFault BitDevice

variable {α β : Type}

section Operations

variable (checks : OverflowChecks) (short : Bytes → Nat → Nat) (buffer : Bytes)

/-- A reader of bits that leaves the device as it was where it fails. -/
def keep (reader : BitReader α) : Kept α := fun device =>
  match reader device.state buffer device.position with
  | .ok ((value, state), position) => .ok value ⟨position, state⟩
  | .error fault => .error fault device

/-- The same for a reader that does not touch the byte at hand. -/
def keepCursor (reader : Reader IoFault α) : Kept α := fun device =>
  match reader buffer device.position with
  | .ok (value, position) => .ok value { device with position := position }
  | .error fault => .error fault device

def setBitPos (bitPos : Nat) : Kept Unit := fun device =>
  .ok () { device with state.bitPos := bitPos }

/-- `short` says where a `read_exact` that finds too few bytes leaves the cursor. -/
def updateByte : Kept Unit := fun device =>
  match buffer[device.position]? with
  | some byte => .ok () ⟨device.position + 1, { device.state with currentByte := byte }⟩
  | none => .error .unexpectedEof { device with position := short buffer device.position }

def readBit : Kept Bool := fun device =>
  if isAligned device.state then
    (do updateByte short buffer; keep buffer BitReader.nextBit : Kept Bool) device
  else keep buffer BitReader.nextBit device

def readBitsInto : Nat → UInt64 → Kept UInt64
  | 0, bits => pure bits
  | count + 1, bits => do
      let bit ← readBit short buffer
      readBitsInto count (bits <<< 1 ||| bit.toUInt64)

def readBits (count : Nat) : Kept UInt64 := readBitsInto short buffer (min count 64) 0

def readUnaligned : Kept UInt8 := do
  let bits ← readBitsInto short buffer 8 0
  return bits.toUInt8

def repeatedly (reader : Kept α) : Nat → Kept (List α)
  | 0 => pure []
  | count + 1 => do
      let value ← reader
      let values ← repeatedly reader count
      return value :: values

def read (count : Nat) : Kept Bytes := fun device =>
  if isAligned device.state then keepCursor buffer (BitReader.readAvailable count) device
  else repeatedly (readUnaligned short buffer) count device

def align : Kept Unit := setBitPos 0

def bitStreamPosition : Kept Nat := keep buffer (BitCursor.bitStreamPosition checks)

def enterByte (byteMove : Int) (bitPos : Nat) : Kept Nat := fun device =>
  (do
    let byte ← keepCursor buffer (seekTo (device.position + byteMove))
    let bits ← keepCursor buffer (asU64 checks (byte * 8))
    setBitPos bitPos
    if bitPos == 0 then return bits
    else do
      updateByte short buffer
      keepCursor buffer (asU64 checks (bits + bitPos)) : Kept Nat) device

def seekBits (count : Int) : Kept Nat := fun device =>
  if count = 0 then bitStreamPosition checks buffer device
  else
    (do
      let count ← keepCursor buffer (asI64 checks (device.state.bitPos + count))
      let bitMove := count.tmod 8
      let byteMove := count.tdiv 8 - (if isAligned device.state then 0 else 1) -
        (if bitMove < 0 then 1 else 0)
      enterByte checks short buffer byteMove ((8 + bitMove) % 8).toNat : Kept Nat) device

def seek (place : SeekFrom) : Kept Nat := fun device =>
  match place, isAligned device.state with
  | .current offset, false =>
      (do
        let count ← keepCursor buffer (asI64 checks (offset.toInt * 8))
        let bit ← seekBits checks short buffer count
        return (bit + 7) / 8 : Kept Nat) device
  | place, _ =>
      (do
        setBitPos 0
        keepCursor buffer (seekCursor place) : Kept Nat) device

def perform : Operation → Kept Outcome
  | .readBit => do return .bit (← readBit short buffer)
  | .readBits count => do return .bits (← readBits short buffer count.toNat)
  | .read count => do return .bytes (← read short buffer count)
  | .align => do
      align
      return .aligned
  | .seekBits count => do return .position (← seekBits checks short buffer count.toInt)
  | .seek place => do return .position (← seek checks short buffer place)

/-- The device that an operation leaves, also with an error.  A panic ends the run. -/
def step (device : BitDevice) (operation : Operation) : Option BitDevice :=
  match perform checks short buffer operation device with
  | .ok _ next => some next
  | .error fault next => if fault.isReturned then some next else none

end Operations

/-! ## What is forgotten -/

/-- A result without the device that a failure leaves. -/
def forget : EStateM.Result IoFault BitDevice α → Except IoFault ((α × BitState) × Nat)
  | .ok value device => .ok ((value, device.state), device.position)
  | .error fault _ => .error fault

/-- The operation succeeds and fails as the reader does that forgets the device. -/
def Forgets (buffer : Bytes) (operation : Kept α) (reader : BitReader α) : Prop :=
  ∀ device, forget (operation device) = reader device.state buffer device.position

variable {checks : OverflowChecks} {short : Bytes → Nat → Nat} {buffer : Bytes}

theorem Forgets.keep (reader : BitReader α) : Forgets buffer (keep buffer reader) reader := by
  intro device
  unfold BitDevice.keep
  split <;> rename_i done <;> rw [done] <;> rfl

theorem Forgets.keepCursor (reader : Reader IoFault α) :
    Forgets buffer (keepCursor buffer reader) fun state => do
      let value ← reader
      return (value, state) := by
  intro device
  change _ = (reader >>= fun value => Pure.pure (value, device.state)) buffer device.position
  rw [Reader.bind_apply]
  unfold BitDevice.keepCursor
  cases reader buffer device.position <;> rfl

theorem Forgets.pure (value : α) : Forgets buffer (pure value) (pure value) := fun _ => rfl

theorem Forgets.bind {operation : Kept α} {reader : BitReader α} {next : α → Kept β}
    {rest : α → BitReader β} (first : Forgets buffer operation reader)
    (then' : ∀ value, Forgets buffer (next value) (rest value)) :
    Forgets buffer (operation >>= next) (reader >>= rest) := by
  intro device
  have plain := first device
  change forget (EStateM.bind operation next device) =
    (reader device.state >>= fun pair => rest pair.1 pair.2) buffer device.position
  rw [Reader.bind_apply, ← plain]
  unfold EStateM.bind
  cases operation device with
  | ok value middle => exact then' value middle
  | error fault middle => rfl

theorem Forgets.updateByte : Forgets buffer (updateByte short buffer) BitReader.updateByte := by
  intro device
  by_cases present : device.position < buffer.length
  · obtain ⟨byte, stands⟩ := Reader.StandsAt.exists_byte present
    have taken := (Reader.Reads.readU8 (ε := IoFault) byte).at stands
    have held : buffer[device.position]? = some byte := by
      obtain ⟨before, after, same, there⟩ := stands
      rw [same, ← there]
      simp
    rw [BitReader.updateByte.eq_def, Reader.bind_ok taken, BitDevice.updateByte, held]
    rfl
  · rw [BitReader.updateByte_past present, BitDevice.updateByte,
      List.getElem?_eq_none (Nat.le_of_not_lt present)]
    rfl

theorem Forgets.readBit : Forgets buffer (readBit short buffer) BitReader.readBit := by
  intro device
  unfold BitDevice.readBit BitReader.readBit
  split
  · exact Forgets.updateByte.bind (fun _ => .keep BitReader.nextBit) device
  · exact Forgets.keep BitReader.nextBit device

theorem Forgets.readBitsInto (count : Nat) (bits : UInt64) :
    Forgets buffer (readBitsInto short buffer count bits) (BitReader.readBitsInto count bits) := by
  induction count generalizing bits with
  | zero => exact .pure bits
  | succ count ih => exact Forgets.readBit.bind fun _ => ih _

theorem Forgets.readUnaligned :
    Forgets buffer (readUnaligned short buffer) BitReader.readUnaligned :=
  (Forgets.readBitsInto 8 0).bind fun _ => .pure _

theorem Forgets.repeatedly {operation : Kept α} {reader : BitReader α}
    (once : Forgets buffer operation reader) (count : Nat) :
    Forgets buffer (repeatedly operation count) (BitReader.repeatedly reader count) := by
  induction count with
  | zero => exact .pure []
  | succ count ih => exact once.bind fun _ => ih.bind fun _ => .pure _

theorem Forgets.read (count : Nat) :
    Forgets buffer (read short buffer count) (BitReader.read count) := by
  intro device
  unfold BitDevice.read BitReader.read
  split
  · rfl
  · exact Forgets.readUnaligned.repeatedly count device

/-- What follows a reader of the cursor starts from where that leaves it. -/
theorem forget_keepCursor_bind {reader : Reader IoFault α} {next : α → Kept β}
    {rest : α → Reader IoFault (β × BitState)} {device : BitDevice}
    (then' : ∀ value position, forget (next value { device with position := position }) =
      rest value buffer position) :
    forget ((keepCursor buffer reader >>= next) device) =
      (reader >>= rest) buffer device.position := by
  change forget (EStateM.bind (keepCursor buffer reader) next device) = _
  rw [Reader.bind_apply]
  unfold EStateM.bind keepCursor
  cases reader buffer device.position with
  | ok pair => exact then' pair.1 pair.2
  | error fault => rfl

theorem Forgets.enterByte (byteMove : Int) (bitPos : Nat) :
    Forgets buffer (enterByte checks short buffer byteMove bitPos)
      (BitCursor.enterByte checks byteMove bitPos) := by
  intro device
  have told : (Reader.tell : Reader IoFault Nat) buffer device.position =
      .ok (device.position, device.position) := rfl
  rw [BitCursor.enterByte.eq_def, Reader.bind_ok told]
  refine forget_keepCursor_bind fun byte reached => ?_
  refine forget_keepCursor_bind fun bits reached => ?_
  cases bitPos with
  | zero => rfl
  | succ place =>
      have inside : Forgets buffer
          (do
            BitDevice.updateByte short buffer
            BitDevice.keepCursor buffer (asU64 checks (bits + (place + 1 : Nat))))
          (BitReader.updateByte >>= fun _ state => do
            let bit ← asU64 checks (bits + (place + 1 : Nat))
            return (bit, state)) :=
        Forgets.updateByte.bind fun _ => .keepCursor _
      exact inside ⟨reached, { device.state with bitPos := place + 1 }⟩

theorem Forgets.seekBits (count : Int) :
    Forgets buffer (seekBits checks short buffer count) (BitCursor.seekBits checks count) := by
  intro device
  unfold BitDevice.seekBits BitCursor.seekBits
  split
  · exact Forgets.keep _ device
  · exact forget_keepCursor_bind fun total position =>
      Forgets.enterByte _ _ { device with position := position }

theorem Forgets.seek (place : SeekFrom) :
    Forgets buffer (seek checks short buffer place) (BitCursor.seek checks place) := by
  intro device
  have cursor : forget ((do setBitPos 0; BitDevice.keepCursor buffer (seekCursor place) : Kept Nat)
      device) = (do
        let position ← seekCursor place
        return (position, { device.state with bitPos := 0 }) : Reader IoFault (Nat × BitState))
          buffer device.position :=
    Forgets.keepCursor (seekCursor place) { device with state.bitPos := 0 }
  unfold BitDevice.seek BitCursor.seek
  cases place with
  | start offset => exact cursor
  | fromEnd offset => exact cursor
  | current offset =>
      cases isAligned device.state with
      | true => exact cursor
      | false =>
          refine forget_keepCursor_bind fun count reached => ?_
          exact ((Forgets.seekBits count).bind fun bit => .pure ((bit + 7) / 8))
            { device with position := reached }

theorem Forgets.perform (operation : Operation) :
    Forgets buffer (perform checks short buffer operation) (operation.perform checks) := by
  cases operation with
  | readBit => exact Forgets.readBit.bind fun _ => .pure _
  | readBits count => exact (Forgets.readBitsInto _ _).bind fun _ => .pure _
  | read count => exact (Forgets.read count).bind fun _ => .pure _
  | align => exact fun _ => rfl
  | seekBits count => exact (Forgets.seekBits _).bind fun _ => .pure _
  | seek place => exact (Forgets.seek place).bind fun _ => .pure _

/-! ## What is left -/

/-- The device stands at a bit of the slice: the byte at hand is the one in front of the
cursor. -/
def Stands (buffer : Bytes) (device : BitDevice) : Prop :=
  ∃ bit, Standing buffer device.position device.state bit

/-- A result that leaves a device that stands, if the run goes on. -/
def Leaves (buffer : Bytes) : EStateM.Result IoFault BitDevice α → Prop
  | .ok _ device => Stands buffer device
  | .error fault device => fault.isReturned = true → Stands buffer device

variable {device : BitDevice}

theorem stands_of_aligned (aligned : device.state.bitPos = 0) : Stands buffer device :=
  ⟨8 * device.position, by rw [aligned]; decide, fun _ => rfl, fun begun => absurd aligned begun⟩

theorem Leaves.bind {operation : Kept α} {next : α → Kept β}
    (first : Leaves buffer (operation device))
    (then' : ∀ value middle, Stands buffer middle → Leaves buffer (next value middle)) :
    Leaves buffer ((operation >>= next) device) := by
  change Leaves buffer (EStateM.bind operation next device)
  unfold EStateM.bind
  cases result : operation device with
  | ok value middle =>
      rw [result] at first
      exact then' value middle first
  | error fault middle =>
      rw [result] at first
      exact first

/-- A read of a bit fails only where a byte has to be taken, and leaves the place as it is. -/
theorem aligned_of_readBit_error {fault : IoFault} {next : BitDevice}
    (failed : readBit short buffer device = .error fault next) : next.state.bitPos = 0 := by
  unfold readBit at failed
  split at failed
  · rename_i aligned
    change EStateM.bind (updateByte short buffer) _ device = _ at failed
    unfold EStateM.bind updateByte at failed
    cases found : buffer[device.position]? with
    | some byte =>
        rw [found] at failed
        cases failed
    | none =>
        rw [found] at failed
        cases failed
        exact BitReader.isAligned_iff.mp aligned
  · cases failed

theorem readBit_leaves (stands : Stands buffer device) :
    Leaves buffer (readBit short buffer device) := by
  obtain ⟨bit, standing⟩ := stands
  have plain : forget (readBit short buffer device) = _ := Forgets.readBit device
  cases result : readBit short buffer device with
  | ok value next =>
      rw [result] at plain
      rcases BitReader.Takes.readBit _ _ _ _ standing with
        ⟨_, after, stop, done, there⟩ | ⟨_, fault, failed⟩
      · rw [done] at plain
        cases plain
        exact ⟨bit + 1, there⟩
      · rw [failed] at plain
        cases plain
  | error fault next => exact fun _ => stands_of_aligned (aligned_of_readBit_error result)

theorem readBitsInto_leaves (stands : Stands buffer device) (count : Nat) (bits : UInt64) :
    Leaves buffer (readBitsInto short buffer count bits device) := by
  induction count generalizing bits device with
  | zero => exact stands
  | succ count ih => exact (readBit_leaves stands).bind fun _ _ next => ih next _

theorem repeatedly_leaves {operation : Kept α} (once : ∀ device, Stands buffer device →
    Leaves buffer (operation device)) (stands : Stands buffer device) (count : Nat) :
    Leaves buffer (repeatedly operation count device) := by
  induction count generalizing device with
  | zero => exact stands
  | succ count ih =>
      exact (once device stands).bind fun _ _ next => (ih next).bind fun _ _ last => last

theorem readUnaligned_leaves (stands : Stands buffer device) :
    Leaves buffer (readUnaligned short buffer device) :=
  (readBitsInto_leaves stands 8 0).bind fun _ _ next => next

theorem read_leaves (stands : Stands buffer device) (count : Nat) :
    Leaves buffer (read short buffer count device) := by
  unfold read
  split
  · rename_i aligned
    exact stands_of_aligned (BitReader.isAligned_iff.mp aligned)
  · exact repeatedly_leaves (fun _ => readUnaligned_leaves) stands count

theorem position_leaves (stands : Stands buffer device) :
    Leaves buffer (bitStreamPosition checks buffer device) := by
  unfold bitStreamPosition keep
  split
  · rename_i told
    obtain ⟨rfl, rfl, _⟩ := BitCursor.bitStreamPosition_eq_ok told
    exact stands
  · exact fun _ => stands

/-! ### Seeks -/

/-- The bit that a seek from here moves to.  A sum that is no signed 64-bit number wraps, where
it does not panic. -/
def seekTarget (device : BitDevice) (count : Int) : Int :=
  8 * device.position - (if isAligned device.state then 0 else 8) +
    (device.state.bitPos + count).bmod (2 ^ 64)

/-- The bit is at a byte boundary, or inside a byte of the slice or in front of it. -/
def landsAt (buffer : Bytes) (target : Int) : Bool := target ≤ 8 * buffer.length || target % 8 == 0

/-- A seek in bits does not land inside a byte behind the slice. -/
def landsInside (buffer : Bytes) (device : BitDevice) : Operation → Bool
  | .seekBits count => landsAt buffer (device.seekTarget count.toInt)
  | .seek (.current offset) => isAligned device.state ||
      landsAt buffer (device.seekTarget ((offset.toInt * 8).bmod (2 ^ 64)))
  | _ => true

/-- A step of the cursor in front of others: its failure must leave a device that stands. -/
theorem Leaves.keepCursor_bind {reader : Reader IoFault α} {next : α → Kept β}
    (stops : ∀ fault, reader buffer device.position = .error fault → fault.isReturned = true →
      Stands buffer device)
    (then' : ∀ value position, reader buffer device.position = .ok (value, position) →
      Leaves buffer (next value { device with position := position })) :
    Leaves buffer ((keepCursor buffer reader >>= next) device) := by
  change Leaves buffer (EStateM.bind (keepCursor buffer reader) next device)
  unfold EStateM.bind keepCursor
  cases done : reader buffer device.position with
  | ok pair => exact then' pair.1 pair.2 done
  | error fault => exact stops fault done

theorem enterByte_leaves (stands : Stands buffer device) {byteMove : Int} {place : Nat}
    (inside : place < 8) (lands : place ≠ 0 → device.position + byteMove < buffer.length) :
    Leaves buffer (enterByte checks short buffer byteMove place device) := by
  refine .keepCursor_bind (fun _ _ _ => stands) fun byte reached sought => ?_
  obtain ⟨rfl, byteIs⟩ := BitCursor.seekTo_eq_ok sought
  refine .keepCursor_bind (fun fault failed returned => ?_) fun bits position scaled => ?_
  · rw [BitCursor.asU64_error failed] at returned
    cases returned
  · obtain ⟨rfl, _⟩ := BitCursor.asU64_eq_ok scaled
    cases place with
    | zero => exact stands_of_aligned rfl
    | succ place =>
        have within := lands (Nat.succ_ne_zero place)
        obtain ⟨taken, held⟩ : ∃ taken, buffer[position]? = some taken :=
          ⟨_, List.getElem?_eq_getElem (show position < buffer.length by omega)⟩
        change Leaves buffer (EStateM.bind (updateByte short buffer) _
          ⟨position, { device.state with bitPos := place + 1 }⟩)
        unfold EStateM.bind updateByte
        dsimp only
        rw [held]
        dsimp only
        unfold keepCursor
        split
        · rename_i told
          obtain ⟨rfl, _⟩ := BitCursor.asU64_eq_ok told
          refine ⟨8 * position + place + 1, inside, fun none => ?_, fun _ => ⟨?_, held⟩⟩
          · cases none
          · dsimp only
            omega
        · rename_i failed
          intro returned
          rw [BitCursor.asU64_error failed] at returned
          cases returned

theorem seekBits_leaves (stands : Stands buffer device) {count : Int}
    (lands : landsAt buffer (device.seekTarget count) = true) :
    Leaves buffer (seekBits checks short buffer count device) := by
  unfold seekBits
  split
  · exact position_leaves stands
  · refine .keepCursor_bind (fun _ _ _ => stands) fun total reached summed => ?_
    obtain ⟨rfl, totalIs⟩ := BitCursor.asI64_bmod summed
    have down := BitCursor.quotient_rounded_down total
    have wrapped := BitCursor.remainder_wrapped total
    simp only [landsAt, seekTarget, ← totalIs, Bool.or_eq_true, decide_eq_true_eq, beq_iff_eq]
      at lands
    refine enterByte_leaves stands (by omega) fun begun => ?_
    by_cases aligned : isAligned device.state = true
    · rw [if_pos aligned] at lands ⊢
      omega
    · rw [if_neg aligned] at lands ⊢
      omega

theorem seek_leaves (stands : Stands buffer device) {place : SeekFrom}
    (lands : landsInside buffer device (.seek place) = true) :
    Leaves buffer (seek checks short buffer place device) := by
  have cursor : Leaves buffer
      ((do setBitPos 0; keepCursor buffer (seekCursor place) : Kept Nat) device) := by
    change Leaves buffer (keepCursor buffer (seekCursor place) { device with state.bitPos := 0 })
    unfold keepCursor
    split
    · exact stands_of_aligned rfl
    · exact fun _ => stands_of_aligned rfl
  unfold seek
  cases place with
  | start offset => exact cursor
  | fromEnd offset => exact cursor
  | current offset =>
      cases aligned : isAligned device.state with
      | true => exact cursor
      | false =>
          refine .keepCursor_bind (fun _ _ _ => stands) fun count reached scaled => ?_
          obtain ⟨rfl, countIs⟩ := BitCursor.asI64_bmod scaled
          rw [landsInside, aligned, Bool.false_or, ← countIs] at lands
          exact (seekBits_leaves stands lands).bind fun _ _ next => next

/-- An operation whose seek lands inside leaves a device that stands, with a result and with an
error. -/
theorem perform_leaves (stands : Stands buffer device) {operation : Operation}
    (lands : landsInside buffer device operation = true) :
    Leaves buffer (perform checks short buffer operation device) := by
  cases operation with
  | readBit => exact (readBit_leaves stands).bind fun _ _ next => next
  | readBits count => exact (readBitsInto_leaves stands _ _).bind fun _ _ next => next
  | read count => exact (read_leaves stands count).bind fun _ _ next => next
  | align => exact stands_of_aligned rfl
  | seekBits count => exact (seekBits_leaves stands lands).bind fun _ _ next => next
  | seek place => exact (seek_leaves stands lands).bind fun _ _ next => next

/-! ## Runs -/

/-- The bits that a read asks for. -/
def bitsAsked : Operation → Option Nat
  | .readBit => some 1
  | .readBits count => some (min count.toNat 64)
  | _ => none

/-- What a read returns next: the bits of the slice from the position that is told, or an error
if they are not all there. -/
structure Honest (checks : OverflowChecks) (short : Bytes → Nat → Nat) (buffer : Bytes)
    (device : BitDevice) : Prop where
  shows : ∀ {operation : Operation} {count bit : Nat} {outcome : Outcome} {told next : BitDevice},
    bitsAsked operation = some count → bitStreamPosition checks buffer device = .ok bit told →
      perform checks short buffer operation device = .ok outcome next →
        Shows buffer bit operation outcome
  ends : ∀ {operation : Operation} {count bit : Nat} {told : BitDevice},
    bitsAsked operation = some count → bitStreamPosition checks buffer device = .ok bit told →
      0 < count → 8 * buffer.length < bit + count →
        ∃ fault next, perform checks short buffer operation device = .error fault next ∧
          fault.isReturned = true

theorem takes_of_bitsAsked {operation : Operation} {count : Nat}
    (asked : bitsAsked operation = some count) :
    ∃ means, BitReader.Takes (operation.perform checks) count means := by
  cases operation with
  | readBit =>
      cases asked
      have taken : BitReader.Takes
          (BitReader.readBit >>= fun bit => pure (Outcome.bit bit)) (1 + 0) _ :=
        BitReader.Takes.readBit.bind fun bit => .pure (Outcome.bit bit)
      exact ⟨_, taken⟩
  | readBits size =>
      cases asked
      have taken : BitReader.Takes
          (BitReader.readBits size.toNat >>= fun bits => pure (Outcome.bits bits))
          (min size.toNat 64 + 0) _ :=
        (BitReader.Takes.readBits size.toNat).bind fun bits => .pure (Outcome.bits bits)
      exact ⟨_, taken⟩
  | _ => cases asked

theorem returned_of_bitsAsked {operation : Operation} {count : Nat}
    (asked : bitsAsked operation = some count) : BitReader.Returns (operation.perform checks) := by
  cases operation with
  | readBit => exact BitReader.Returns.bind
  | readBits size => exact BitReader.Returns.bind
  | _ => cases asked

theorem shows_of_bitsAsked {operation : Operation} {count bit position stop : Nat}
    {state next : BitState} {outcome : Outcome} (asked : bitsAsked operation = some count)
    (standing : Standing buffer position state bit)
    (done : operation.perform checks state buffer position = .ok ((outcome, next), stop)) :
    Shows buffer bit operation outcome := by
  cases operation with
  | readBit => exact (BitCursor.readBit_eq_ok standing done).1
  | readBits size => exact (BitCursor.readBits_eq_ok standing done).1
  | _ => cases asked

/-- A read of no bits shows nothing, wherever it stands. -/
theorem shows_nothing {operation : Operation} {outcome : Outcome} {bit : Nat}
    (asked : bitsAsked operation = some 0) (shows : Shows buffer bit operation outcome)
    (other : Nat) : Shows buffer other operation outcome := by
  cases operation with
  | readBits size =>
      cases outcome with
      | bits number =>
          have none : min size.toNat 64 = 0 := Option.some.inj asked
          have empty : slice buffer bit (min size.toNat 64) =
              toBits (min size.toNat 64) number.toNat := shows
          change slice buffer other (min size.toNat 64) = toBits (min size.toNat 64) number.toNat
          rw [none] at empty ⊢
          exact empty
      | _ => exact shows
  | _ => cases asked

/-- A read returns the bits where the device stands, or an error if they are not all there. -/
theorem read_spec {operation : Operation} {count bit : Nat}
    (standing : Standing buffer device.position device.state bit)
    (asked : bitsAsked operation = some count) :
    (Enough buffer bit count ∧ ∃ outcome next,
      perform checks short buffer operation device = .ok outcome next ∧
        Shows buffer bit operation outcome) ∨
    (¬Enough buffer bit count ∧ ∃ fault next,
      perform checks short buffer operation device = .error fault next ∧
        fault.isReturned = true) := by
  have plain : forget (perform checks short buffer operation device) = _ :=
    Forgets.perform operation device
  obtain ⟨means, taken⟩ := @takes_of_bitsAsked checks operation count asked
  cases result : perform checks short buffer operation device with
  | ok outcome next =>
      rw [result] at plain
      rcases taken _ _ _ _ standing with ⟨enough, _⟩ | ⟨_, fault, failed⟩
      · exact .inl ⟨enough, outcome, next, rfl, shows_of_bitsAsked asked standing plain.symm⟩
      · rw [failed] at plain
        cases plain
  | error fault next =>
      rw [result] at plain
      rcases taken _ _ _ _ standing with ⟨_, after, stop, done, _⟩ | ⟨short, _⟩
      · rw [done] at plain
        cases plain
      · have returns := (@returned_of_bitsAsked checks operation count asked).returned device.state
        exact .inr ⟨short, fault, next, rfl, returns.returned _ _ _ plain.symm⟩

/-- The position that is told is that of the device, up to a multiple of the range. -/
theorem told_eq {start bit : Nat} {told : BitDevice}
    (standing : Standing buffer device.position device.state start)
    (position : bitStreamPosition checks buffer device = .ok bit told) :
    (bit : Int) = start % 2 ^ 64 := by
  unfold bitStreamPosition keep at position
  split at position
  · rename_i done
    cases position
    have place := (BitCursor.bitStreamPosition_eq_ok done).2.2
    have ahead := BitCursor.standing_ahead standing
    omega
  · cases position

theorem honest_of_stands (addressable : 8 * buffer.length < 2 ^ 64)
    (stands : Stands buffer device) : Honest checks short buffer device := by
  obtain ⟨start, standing⟩ := stands
  constructor
  · intro operation count bit outcome told next asked position done
    have same := told_eq standing position
    rcases read_spec standing asked with
      ⟨enough, shown, after, read, shows⟩ | ⟨_, fault, after, failed, _⟩
    · rw [done] at read
      cases read
      rcases enough with none | within
      · subst none
        exact shows_nothing asked shows bit
      · rw [show bit = start by omega]
        exact shows
    · rw [done] at failed
      cases failed
  · intro operation count bit told asked position positive past
    have same := told_eq standing position
    rcases read_spec standing asked with ⟨enough, _⟩ | ⟨_, fault, after, failed, returned⟩
    · rcases enough with none | within <;> omega
    · exact ⟨fault, after, failed, returned⟩

section Runs

variable {past : List (BitDevice × Operation)} {last : BitDevice}

theorem stands_of_run (run : Run (step checks short buffer) start past last)
    (lands : ∀ taken ∈ past, landsInside buffer taken.1 taken.2 = true) : Stands buffer last := by
  induction run with
  | start => exact stands_of_aligned rfl
  | @next past device last operation before taken ih =>
      rw [List.forall_mem_cons] at lands
      have leaves : Leaves buffer (perform checks short buffer operation device) :=
        perform_leaves (ih lands.2) lands.1
      unfold step at taken
      split at taken
      · rename_i done
        rw [done] at leaves
        cases taken
        exact leaves
      · rename_i failed
        rw [failed] at leaves
        split at taken
        · rename_i returned
          cases taken
          exact leaves returned
        · cases taken

/-- Whatever succeeds and fails on the way: as long as no seek lands inside a byte that is not
there, every read returns the bits from the position that is told, and an error behind the end
of the slice. -/
theorem honest_of_run (addressable : 8 * buffer.length < 2 ^ 64)
    (run : Run (step checks short buffer) start past last)
    (lands : ∀ taken ∈ past, landsInside buffer taken.1 taken.2 = true) :
    Honest checks short buffer last :=
  honest_of_stands addressable (stands_of_run run lands)

end Runs

/-- Seeks in front of the slice and a read behind it fail, and reads go on. -/
def failingOperations : List Operation :=
  [.readBit, .seekBits (-9), .seekBits 15, .readBit, .seek (.fromEnd (-5)), .seek (.start 1),
    .readBit]

theorem failingOperations_honest :
    ∃ past last, Run (step .on (fun _ position => position) [0xA5, 0x3C]) start past last ∧
      (∀ taken ∈ past, landsInside [0xA5, 0x3C] taken.1 taken.2 = true) ∧ last = ⟨2, ⟨1, 0x3C⟩⟩ ∧
      Honest .on (fun _ position => position) [0xA5, 0x3C] last := by
  obtain ⟨⟨past, last⟩, followed⟩ : ∃ reached, Concurrent.follow
      (step .on (fun _ position => position) [0xA5, 0x3C]) [] start failingOperations =
        some reached := ⟨_, rfl⟩
  have run := Run.start.follow followed
  have lands : ∀ taken ∈ past, landsInside [0xA5, 0x3C] taken.1 taken.2 = true := by
    cases followed
    decide
  have there : last = ⟨2, ⟨1, 0x3C⟩⟩ := by
    cases followed
    rfl
  exact ⟨past, last, run, lands, there, honest_of_run (by decide) run lands⟩

/-- A bit of the first byte is read, and a seek lands inside a byte behind the second one and
fails. -/
def strayOperations : List Operation := [.readBit, .seekBits 16]

/-- The reader is inside the second byte and has the first one at hand. -/
def strayed : BitDevice := ⟨2, ⟨1, 0x0F⟩⟩

/-- The bit at 9 is set, and the read returns one that is not. -/
theorem not_honest_strayed (short : Bytes → Nat → Nat) :
    bitStreamPosition .on [0x0F, 0xF0] strayed = .ok 9 strayed ∧
      perform .on short [0x0F, 0xF0] .readBit strayed = .ok (.bit false) ⟨2, ⟨2, 0x0F⟩⟩ ∧
      ¬Honest .on short [0x0F, 0xF0] strayed := by
  have told : bitStreamPosition .on [0x0F, 0xF0] strayed = .ok 9 strayed := rfl
  have read : perform .on short [0x0F, 0xF0] .readBit strayed = .ok (.bit false) ⟨2, ⟨2, 0x0F⟩⟩ :=
    rfl
  refine ⟨told, read, fun honest => ?_⟩
  have shown : slice [0x0F, 0xF0] 9 1 = [false] := honest.shows rfl told read
  exact absurd shown (by decide)

/-- It makes no difference where a short read leaves the cursor. -/
theorem stale_bit_returned :
    (∃ past, Run (step .on (fun _ position => position) [0x0F, 0xF0]) start past strayed ∧
      ¬Honest .on (fun _ position => position) [0x0F, 0xF0] strayed) ∧
    (∃ past, Run (step .on (fun buffer _ => buffer.length) [0x0F, 0xF0]) start past strayed ∧
      ¬Honest .on (fun buffer _ => buffer.length) [0x0F, 0xF0] strayed) := by
  constructor
  · have followed : Concurrent.follow (step .on (fun _ position => position) [0x0F, 0xF0]) [] start
        strayOperations = some ([(⟨1, ⟨1, 0x0F⟩⟩, .seekBits 16), (start, .readBit)], strayed) := rfl
    exact ⟨_, Run.start.follow followed, (not_honest_strayed _).2.2⟩
  · have followed : Concurrent.follow (step .on (fun buffer _ => buffer.length) [0x0F, 0xF0]) []
        start strayOperations = some ([(⟨1, ⟨1, 0x0F⟩⟩, .seekBits 16), (start, .readBit)], strayed) := rfl
    exact ⟨_, Run.start.follow followed, (not_honest_strayed _).2.2⟩

end BitDevice

end ScuffleVideo.Wire
