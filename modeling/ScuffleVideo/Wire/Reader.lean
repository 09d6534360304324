import ScuffleVideo.Wire.ByteOrder

/-!
# Cursor readers

A reader computes over a fixed buffer and a position that it moves.  Three
properties of readers compose through sequencing.  `Reads` says which bytes a
reader consumes exactly, wherever they stand in the buffer.  `Consumes` bounds
from below how far a reader moves.  `Stable` says that bytes appended to the
buffer change nothing the reader has already decided.
-/

namespace ScuffleVideo.Wire

/-- The fault raised when the buffer ends before the field that is read. -/
class Starving (ε : Type) where
  starved : ε

/-- The fault that stands for a panic: a failed assertion or a checked
arithmetic operation out of range. -/
class Panicking (ε : Type) where
  panic : ε

/-- Whether the build traps arithmetic out of range or lets it wrap. -/
inductive OverflowChecks where
  | on
  | off
  deriving DecidableEq, Repr

/-- A three-byte big-endian field.  Writing a wider number is a panic. -/
def writeU24 {ε : Type} [Panicking ε] (number : UInt32) : Except ε Bytes :=
  if number.toNat < 2 ^ 24 then .ok (toBytesBE 3 number.toNat) else .error Panicking.panic

/-- A sequence of fallible computations succeeds exactly when both parts do. -/
theorem sequence_eq_ok_iff {ε α β : Type} {first : Except ε α} {next : α → Except ε β}
    {result : β} :
    (first >>= next) = .ok result ↔ ∃ value, first = .ok value ∧ next value = .ok result := by
  cases first with
  | error fault =>
      constructor
      · intro impossible; cases impossible
      · rintro ⟨value, impossible, _⟩; cases impossible
  | ok value =>
      constructor
      · intro rest; exact ⟨value, rfl, rest⟩
      · rintro ⟨value', same, rest⟩
        cases same
        exact rest

theorem error_of_map {ε α β : Type} {first : Except ε α} {next : α → β} {fault : ε}
    (failed : (do return next (← first)) = .error fault) : first = .error fault := by
  cases first with
  | error earlier =>
      cases failed
      rfl
  | ok value => cases failed

def Reader (ε α : Type) := Bytes → Nat → Except ε (α × Nat)

namespace Reader

variable {ε α β : Type}

instance : Monad (Reader ε) where
  pure value := fun _ position => .ok (value, position)
  bind first next := fun buffer position =>
    match first buffer position with
    | .error fault => .error fault
    | .ok (value, middle) => next value buffer middle

def fail (fault : ε) : Reader ε α := fun _ _ => .error fault

/-- The present value, or a fault in place of a missing one. -/
def orFail (fault : ε) : Option α → Reader ε α
  | some value => pure value
  | none => fail fault

/-- The current position. -/
def tell : Reader ε Nat := fun _ position => .ok (position, position)

/-- Move forward without looking at the buffer, possibly past its end. -/
def seek (count : Nat) : Reader ε Unit := fun _ position => .ok ((), position + count)

/-- The next `count` bytes, which must all be present. -/
def take [Starving ε] (count : Nat) : Reader ε Bytes := fun buffer position =>
  if position + count ≤ buffer.length then
    .ok ((buffer.drop position).take count, position + count)
  else
    .error Starving.starved

section Integers

variable [Starving ε]

def readUint (width : Nat) : Reader ε Nat := do
  let bytes ← take width
  return ofBytesBE bytes

def readU8 : Reader ε UInt8 := do
  return UInt8.ofNat (← readUint 1)

def readU24 : Reader ε UInt32 := do
  return UInt32.ofNat (← readUint 3)

def readU32 : Reader ε UInt32 := do
  return UInt32.ofNat (← readUint 4)

def readU32LE : Reader ε UInt32 := do
  let bytes ← take 4
  return UInt32.ofNat (ofBytesLE bytes)

def readU64 : Reader ε UInt64 := do
  return UInt64.ofNat (← readUint 8)

end Integers

/-! ## Sequencing -/

@[simp]
theorem pure_apply (value : α) (buffer : Bytes) (position : Nat) :
    (pure value : Reader ε α) buffer position = .ok (value, position) := rfl

theorem bind_apply (first : Reader ε α) (next : α → Reader ε β)
    (buffer : Bytes) (position : Nat) :
    (first >>= next) buffer position =
      match first buffer position with
      | .error fault => .error fault
      | .ok (value, middle) => next value buffer middle := rfl

theorem bind_ok {first : Reader ε α} {buffer : Bytes} {position middle : Nat} {value : α}
    (read : first buffer position = .ok (value, middle)) (next : α → Reader ε β) :
    (first >>= next) buffer position = next value buffer middle := by
  rw [bind_apply, read]

theorem bind_error {first : Reader ε α} {buffer : Bytes} {position : Nat} {fault : ε}
    (failed : first buffer position = .error fault) (next : α → Reader ε β) :
    (first >>= next) buffer position = .error fault := by
  rw [bind_apply, failed]

theorem map_ok {first : Reader ε α} {buffer : Bytes} {position stop : Nat} {value : α}
    (read : first buffer position = .ok (value, stop)) (change : α → β) :
    (do return change (← first) : Reader ε β) buffer position = .ok (change value, stop) :=
  bind_ok read _

/-- A sequence succeeds exactly when both of its parts do. -/
theorem bind_eq_ok_iff {first : Reader ε α} {next : α → Reader ε β}
    {buffer : Bytes} {position : Nat} {result : β × Nat} :
    (first >>= next) buffer position = .ok result ↔
      ∃ value middle, first buffer position = .ok (value, middle) ∧
        next value buffer middle = .ok result := by
  rw [bind_apply]
  cases read : first buffer position with
  | error fault =>
      constructor
      · intro impossible; cases impossible
      · rintro ⟨value, middle, impossible, _⟩; cases impossible
  | ok pair =>
      obtain ⟨value, middle⟩ := pair
      constructor
      · intro rest; exact ⟨value, middle, rfl, rest⟩
      · rintro ⟨value', middle', same, rest⟩
        cases same
        exact rest

/-- The bytes a successful `take` returns stand at its position. -/
theorem take_eq_ok [Starving ε] {count : Nat} {buffer : Bytes} {position stop : Nat}
    {bytes : Bytes} (read : (take count : Reader ε Bytes) buffer position = .ok (bytes, stop)) :
    bytes = (buffer.drop position).take count ∧ stop = position + count ∧
      position + count ≤ buffer.length := by
  unfold take at read
  split at read
  · rename_i present
    cases read
    exact ⟨rfl, rfl, present⟩
  · cases read

theorem take_of_le [Starving ε] {count : Nat} {buffer : Bytes} {position : Nat}
    (present : position + count ≤ buffer.length) :
    (take count : Reader ε Bytes) buffer position =
      .ok ((buffer.drop position).take count, position + count) :=
  if_pos present

/-- A field that is present is read. -/
theorem readUint_of_le [Starving ε] {width : Nat} {buffer : Bytes} {position : Nat}
    (present : position + width ≤ buffer.length) :
    (readUint width : Reader ε Nat) buffer position =
      .ok (ofBytesBE ((buffer.drop position).take width), position + width) :=
  map_ok (take_of_le present) ofBytesBE

/-- A field that is read stands inside the buffer. -/
theorem readUint_inside [Starving ε] {width : Nat} {buffer : Bytes} {position : Nat}
    {next : Nat → α} {result : α × Nat}
    (read : (do return next (← readUint width) : Reader ε α) buffer position = .ok result) :
    position + width ≤ buffer.length ∧ result.2 = position + width := by
  obtain ⟨number, middle, numberRead, same⟩ := bind_eq_ok_iff.mp read
  obtain ⟨bytes, stop, taken, done⟩ := bind_eq_ok_iff.mp numberRead
  obtain ⟨_, reached, present⟩ := take_eq_ok taken
  cases done
  cases same
  exact ⟨present, reached⟩

/-- The value of a field is the number its bytes denote, which has so many bytes. -/
theorem readUint_eq_ok [Starving ε] {width : Nat} {buffer : Bytes} {position stop number : Nat}
    (read : (readUint width : Reader ε Nat) buffer position = .ok (number, stop)) :
    number = ofBytesBE ((buffer.drop position).take width) ∧ number < 256 ^ width ∧
      stop = position + width := by
  obtain ⟨bytes, past, bytesRead, read⟩ := bind_eq_ok_iff.mp read
  obtain ⟨rfl, rfl, present⟩ := take_eq_ok bytesRead
  cases read
  have size : ((buffer.drop position).take width).length = width := by
    rw [List.length_take, List.length_drop]
    omega
  have small := ofBytesBE_lt ((buffer.drop position).take width)
  rw [size] at small
  exact ⟨rfl, small, rfl⟩

theorem readU24_eq_ok [Starving ε] {buffer : Bytes} {position stop : Nat} {number : UInt32}
    (read : (readU24 : Reader ε UInt32) buffer position = .ok (number, stop)) :
    number.toNat = ofBytesBE ((buffer.drop position).take 3) ∧ stop = position + 3 := by
  obtain ⟨value, middle, fieldRead, read⟩ := bind_eq_ok_iff.mp read
  obtain ⟨denoted, small, reached⟩ := readUint_eq_ok fieldRead
  cases read
  have fits : value < 2 ^ 32 := Nat.lt_trans small (by decide)
  exact ⟨(UInt32.toNat_ofNat_of_lt' fits).trans denoted, reached⟩

theorem readU32_eq_ok [Starving ε] {buffer : Bytes} {position stop : Nat} {number : UInt32}
    (read : (readU32 : Reader ε UInt32) buffer position = .ok (number, stop)) :
    number.toNat = ofBytesBE ((buffer.drop position).take 4) ∧ stop = position + 4 := by
  obtain ⟨value, middle, fieldRead, read⟩ := bind_eq_ok_iff.mp read
  obtain ⟨denoted, small, reached⟩ := readUint_eq_ok fieldRead
  cases read
  have fits : value < 2 ^ 32 := Nat.lt_of_lt_of_le small (by decide)
  exact ⟨(UInt32.toNat_ofNat_of_lt' fits).trans denoted, reached⟩

/-! ## Exact consumption -/

/-- `reader` consumes exactly `bytes` and returns `value`, whatever stands
before and after them. -/
def Reads (reader : Reader ε α) (bytes : Bytes) (value : α) : Prop :=
  ∀ before after : Bytes, reader (before ++ bytes ++ after) before.length =
    .ok (value, before.length + bytes.length)

namespace Reads

theorem pure (value : α) : Reads (pure value : Reader ε α) [] value :=
  fun _ _ => rfl

theorem bind {first : Reader ε α} {next : α → Reader ε β} {bytes rest : Bytes}
    {middle : α} {value : β}
    (head : Reads first bytes middle) (tail : Reads (next middle) rest value) :
    Reads (first >>= next) (bytes ++ rest) value := by
  intro before after
  have firstRead := head before (rest ++ after)
  have nextRead := tail (before ++ bytes) after
  rw [List.length_append] at nextRead
  rw [show before ++ (bytes ++ rest) ++ after = before ++ bytes ++ (rest ++ after) by
    simp only [List.append_assoc], bind_ok firstRead]
  rw [List.append_assoc (before ++ bytes)] at nextRead
  rw [nextRead, List.length_append, Nat.add_assoc]

/-- A field followed by a computation that reads nothing further. -/
theorem finish {first : Reader ε α} {next : α → Reader ε β} {bytes : Bytes} {middle : α}
    {value : β} (head : Reads first bytes middle) (tail : Reads (next middle) [] value) :
    Reads (first >>= next) bytes value := by
  have sequenced := head.bind tail
  rwa [List.append_nil] at sequenced

theorem map {first : Reader ε α} {bytes : Bytes} {middle : α}
    (head : Reads first bytes middle) (change : α → β) :
    Reads (do return change (← first)) bytes (change middle) :=
  head.finish (Reads.pure (change middle))

theorem take [Starving ε] {count : Nat} {bytes : Bytes} (size : bytes.length = count) :
    Reads (Reader.take count : Reader ε Bytes) bytes bytes := by
  intro before after
  have present : before.length + count ≤ (before ++ bytes ++ after).length := by
    simp only [List.length_append, size]
    omega
  rw [Reader.take, if_pos present, ← size, List.append_assoc, List.drop_left, List.take_left]

theorem orFail (fault : ε) (value : α) :
    Reads (Reader.orFail fault (some value)) [] value :=
  Reads.pure value

/-- A reader run from the start of exactly its own bytes. -/
theorem run {reader : Reader ε α} {bytes : Bytes} {value : α}
    (read : Reads reader bytes value) : reader bytes 0 = .ok (value, bytes.length) := by
  simpa using read [] []

/-- A reader run from the start of a buffer that goes on after its bytes. -/
theorem run_append {reader : Reader ε α} {bytes : Bytes} {value : α}
    (read : Reads reader bytes value) (after : Bytes) :
    reader (bytes ++ after) 0 = .ok (value, bytes.length) := by
  simpa using read [] after

section Integers

variable [Starving ε]

theorem readUint (width number : Nat) :
    Reads (Reader.readUint width : Reader ε Nat) (toBytesBE width number)
      (number % 256 ^ width) := by
  have field := (Reads.take (ε := ε) (length_toBytesBE width number)).map ofBytesBE
  rwa [ofBytesBE_toBytesBE] at field

theorem readU8 (number : UInt8) :
    Reads (Reader.readU8 : Reader ε UInt8) [number] number := by
  have field := (Reads.readUint (ε := ε) 1 number.toNat).map UInt8.ofNat
  have same : UInt8.ofNat (number.toNat % 256 ^ 1) = number := by
    rw [Nat.mod_eq_of_lt (by simpa using number.toNat_lt), UInt8.ofNat_toNat]
  have shape : toBytesBE 1 number.toNat = [number] := by
    simp [toBytesBE, UInt8.ofNat_toNat]
  rwa [same, shape] at field

theorem readU24 {number : UInt32} (small : number.toNat < 2 ^ 24) :
    Reads (Reader.readU24 : Reader ε UInt32) (toBytesBE 3 number.toNat) number := by
  have field := (Reads.readUint (ε := ε) 3 number.toNat).map UInt32.ofNat
  rwa [Nat.mod_eq_of_lt (by simpa using small), UInt32.ofNat_toNat] at field

theorem readU32 (number : UInt32) :
    Reads (Reader.readU32 : Reader ε UInt32) (toBytesBE 4 number.toNat) number := by
  have field := (Reads.readUint (ε := ε) 4 number.toNat).map UInt32.ofNat
  rwa [Nat.mod_eq_of_lt (by simpa using number.toNat_lt), UInt32.ofNat_toNat] at field

theorem readU32LE (number : UInt32) :
    Reads (Reader.readU32LE : Reader ε UInt32) (toBytesLE 4 number.toNat) number := by
  have field := (Reads.take (ε := ε) (length_toBytesLE 4 number.toNat)).map
    (fun bytes => UInt32.ofNat (ofBytesLE bytes))
  rwa [ofBytesLE_toBytesLE, Nat.mod_eq_of_lt (by simpa using number.toNat_lt),
    UInt32.ofNat_toNat] at field

theorem readU64 (number : UInt64) :
    Reads (Reader.readU64 : Reader ε UInt64) (toBytesBE 8 number.toNat) number := by
  have field := (Reads.readUint (ε := ε) 8 number.toNat).map UInt64.ofNat
  rwa [Nat.mod_eq_of_lt (by simpa using number.toNat_lt), UInt64.ofNat_toNat] at field

end Integers

end Reads

/-! ## Bytes in place -/

/-- The buffer has `bytes` at `position`. -/
def StandsAt (buffer : Bytes) (position : Nat) (bytes : Bytes) : Prop :=
  ∃ before after : Bytes, buffer = before ++ bytes ++ after ∧ before.length = position

namespace StandsAt

variable {buffer bytes rest : Bytes} {position : Nat}

theorem le_length (stands : StandsAt buffer position bytes) :
    position + bytes.length ≤ buffer.length := by
  obtain ⟨before, after, rfl, rfl⟩ := stands
  simp only [List.length_append]
  omega

theorem take_drop (stands : StandsAt buffer position bytes) :
    (buffer.drop position).take bytes.length = bytes := by
  obtain ⟨before, after, rfl, rfl⟩ := stands
  rw [List.append_assoc, List.drop_left, List.take_left]

theorem of_le {count : Nat} (present : position + count ≤ buffer.length) :
    StandsAt buffer position ((buffer.drop position).take count) := by
  refine ⟨buffer.take position, (buffer.drop position).drop count, ?_, ?_⟩
  · rw [List.append_assoc, List.take_append_drop, List.take_append_drop]
  · rw [List.length_take]
    omega

theorem append_iff :
    StandsAt buffer position (bytes ++ rest) ↔
      StandsAt buffer position bytes ∧ StandsAt buffer (position + bytes.length) rest := by
  constructor
  · rintro ⟨before, after, rfl, rfl⟩
    refine ⟨⟨before, rest ++ after, by simp only [List.append_assoc], rfl⟩,
      before ++ bytes, after, by simp only [List.append_assoc], List.length_append⟩
  · rintro ⟨⟨before, after, rfl, rfl⟩, inner, last, same, reached⟩
    have cut : before ++ bytes = inner := by
      have lengths : (before ++ bytes).length = inner.length := by
        rw [List.length_append, reached]
      rw [List.append_assoc inner] at same
      exact (List.append_inj same lengths).1
    subst cut
    refine ⟨before, last, ?_, rfl⟩
    rw [same]
    simp only [List.append_assoc]

theorem cons_iff {byte : UInt8} :
    StandsAt buffer position (byte :: rest) ↔
      StandsAt buffer position [byte] ∧ StandsAt buffer (position + 1) rest :=
  @append_iff buffer [byte] rest position

theorem unique (first : StandsAt buffer position bytes) (second : StandsAt buffer position rest)
    (lengths : bytes.length = rest.length) : bytes = rest := by
  rw [← first.take_drop, ← second.take_drop, lengths]

end StandsAt

/-- The bytes that stand at a position inside the buffer. -/
theorem StandsAt.exists_bytes {buffer : Bytes} {position count : Nat}
    (present : position + count ≤ buffer.length) :
    ∃ bytes : Bytes, bytes.length = count ∧ StandsAt buffer position bytes := by
  refine ⟨_, ?_, StandsAt.of_le present⟩
  rw [List.length_take, List.length_drop]
  omega

theorem StandsAt.exists_byte {buffer : Bytes} {position : Nat} (within : position < buffer.length) :
    ∃ byte, StandsAt buffer position [byte] := by
  obtain ⟨bytes, size, stands⟩ := @StandsAt.exists_bytes buffer position 1 (Nat.succ_le_of_lt within)
  obtain ⟨byte, rfl⟩ := List.length_eq_one_iff.mp size
  exact ⟨byte, stands⟩

/-- A reader run where its bytes stand. -/
theorem Reads.at {reader : Reader ε α} {buffer bytes : Bytes} {position : Nat} {value : α}
    (read : Reads reader bytes value) (stands : StandsAt buffer position bytes) :
    reader buffer position = .ok (value, position + bytes.length) := by
  obtain ⟨before, after, rfl, rfl⟩ := stands
  exact read before after

theorem readUint_cases [Starving ε] (width : Nat) (buffer : Bytes) (position : Nat) :
    (∃ number < 256 ^ width, StandsAt buffer position (toBytesBE width number)) ∨
      buffer.length < position + width ∧
        (readUint width : Reader ε Nat) buffer position = .error Starving.starved := by
  by_cases present : position + width ≤ buffer.length
  · left
    have size : ((buffer.drop position).take width).length = width := by
      rw [List.length_take, List.length_drop]
      omega
    have small := ofBytesBE_lt ((buffer.drop position).take width)
    have written := toBytesBE_ofBytesBE ((buffer.drop position).take width)
    rw [size] at small written
    refine ⟨_, small, ?_⟩
    rw [written]
    exact StandsAt.of_le present
  · right
    refine ⟨by omega, ?_⟩
    rw [readUint, bind_apply, take, if_neg present]

/-! ## Least consumption -/

/-- A successful run moves the position forward by at least `least`. -/
def Consumes (least : Nat) (reader : Reader ε α) : Prop :=
  ∀ (buffer : Bytes) (position stop : Nat) (value : α),
    reader buffer position = .ok (value, stop) → position + least ≤ stop

namespace Consumes

theorem pure (value : α) : Consumes 0 (pure value : Reader ε α) := by
  intro buffer position stop result read
  cases read
  exact Nat.le_refl _

theorem fail (fault : ε) : Consumes 0 (Reader.fail fault : Reader ε α) := by
  intro buffer position stop result read
  cases read

theorem orFail (fault : ε) (value : Option α) : Consumes 0 (Reader.orFail fault value) := by
  cases value with
  | none => exact fail fault
  | some value => exact pure value

theorem tell : Consumes 0 (Reader.tell : Reader ε Nat) := by
  intro buffer position stop result read
  cases read
  exact Nat.le_refl _

theorem seek (count : Nat) : Consumes 0 (Reader.seek count : Reader ε Unit) := by
  intro buffer position stop result read
  cases read
  exact Nat.le_add_right _ _

theorem bind {least more : Nat} {first : Reader ε α} {next : α → Reader ε β}
    (head : Consumes least first) (tail : ∀ value, Consumes more (next value)) :
    Consumes (least + more) (first >>= next) := by
  intro buffer position stop result read
  obtain ⟨value, middle, firstRead, nextRead⟩ := bind_eq_ok_iff.mp read
  have moved := head _ _ _ _ firstRead
  have movedOn := tail value _ _ _ _ nextRead
  omega

theorem weaken {least more : Nat} {reader : Reader ε α}
    (consumed : Consumes more reader) (below : least ≤ more) : Consumes least reader := by
  intro buffer position stop result read
  exact Nat.le_trans (Nat.add_le_add_left below _) (consumed _ _ _ _ read)

theorem take [Starving ε] (count : Nat) :
    Consumes count (Reader.take count : Reader ε Bytes) := by
  intro buffer position stop result read
  unfold Reader.take at read
  split at read
  · cases read
    exact Nat.le_refl _
  · cases read

section Integers

variable [Starving ε]

theorem readUint (width : Nat) : Consumes width (Reader.readUint width : Reader ε Nat) :=
  (take width).bind fun _ => pure _

theorem readU8 : Consumes 1 (Reader.readU8 : Reader ε UInt8) :=
  (readUint 1).bind fun _ => pure _

theorem readU24 : Consumes 3 (Reader.readU24 : Reader ε UInt32) :=
  (readUint 3).bind fun _ => pure _

theorem readU32 : Consumes 4 (Reader.readU32 : Reader ε UInt32) :=
  (readUint 4).bind fun _ => pure _

theorem readU32LE : Consumes 4 (Reader.readU32LE : Reader ε UInt32) :=
  (take 4).bind fun _ => pure _

end Integers

end Consumes

/-! ## Stability under more input -/

/-- Appending bytes changes neither a success nor a fault other than
starvation. -/
def Stable [Starving ε] (reader : Reader ε α) : Prop :=
  ∀ (buffer after : Bytes) (position : Nat),
    reader buffer position = .error Starving.starved ∨
      reader (buffer ++ after) position = reader buffer position

namespace Stable

variable [Starving ε]

theorem pure (value : α) : Stable (pure value : Reader ε α) :=
  fun _ _ _ => .inr rfl

theorem fail (fault : ε) : Stable (Reader.fail fault : Reader ε α) :=
  fun _ _ _ => .inr rfl

theorem orFail (fault : ε) (value : Option α) : Stable (Reader.orFail fault value) := by
  cases value with
  | none => exact fail fault
  | some value => exact pure value

theorem tell : Stable (Reader.tell : Reader ε Nat) := fun _ _ _ => .inr rfl

theorem seek (count : Nat) : Stable (Reader.seek count : Reader ε Unit) :=
  fun _ _ _ => .inr rfl

theorem take (count : Nat) : Stable (Reader.take count : Reader ε Bytes) := by
  intro buffer after position
  unfold Reader.take
  by_cases present : position + count ≤ buffer.length
  · right
    have still : position + count ≤ (buffer ++ after).length := by
      rw [List.length_append]
      omega
    have within : count ≤ (buffer.drop position).length := by
      rw [List.length_drop]
      omega
    rw [if_pos present, if_pos still, List.drop_append_of_le_length (by omega),
      List.take_append_of_le_length within]
  · left
    rw [if_neg present]

theorem bind {first : Reader ε α} {next : α → Reader ε β}
    (head : Stable first) (tail : ∀ value, Stable (next value)) :
    Stable (first >>= next) := by
  intro buffer after position
  rcases head buffer after position with starved | same
  · exact .inl (bind_error starved next)
  · rw [bind_apply, bind_apply, same]
    cases first buffer position with
    | error fault => exact .inr rfl
    | ok pair => exact tail pair.1 buffer after pair.2

theorem ite {condition : Prop} [Decidable condition] {yes no : Reader ε α}
    (stableYes : Stable yes) (stableNo : Stable no) :
    Stable (if condition then yes else no) := by
  split
  · exact stableYes
  · exact stableNo

theorem readUint (width : Nat) : Stable (Reader.readUint width : Reader ε Nat) :=
  (take width).bind fun _ => pure _

theorem readU8 : Stable (Reader.readU8 : Reader ε UInt8) :=
  (readUint 1).bind fun _ => pure _

theorem readU24 : Stable (Reader.readU24 : Reader ε UInt32) :=
  (readUint 3).bind fun _ => pure _

theorem readU32 : Stable (Reader.readU32 : Reader ε UInt32) :=
  (readUint 4).bind fun _ => pure _

theorem readU32LE : Stable (Reader.readU32LE : Reader ε UInt32) :=
  (take 4).bind fun _ => pure _

end Stable

end Reader

end ScuffleVideo.Wire
