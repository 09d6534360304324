import ScuffleVideo.Wire.Cursor

/-!
# Boxes

A box is a size, a four-character type and a payload.  The size counts the
header and moves to a 64-bit field when it does not fit in 32 bits.  Every box
type says how its own payload is measured, written, checked and read; the
header in front of the payload is the same for all of them.
-/

namespace ScuffleVideo.Mp4

open Wire Wire.Reader

def u32Max : Nat := 2 ^ 32 - 1

/-! ## Headers -/

structure BoxHeader where
  boxType : FourCC
  deriving DecidableEq, Repr

namespace BoxHeader

/-- The size of a box, from its long field when the short one is 1. -/
def readSize (shortSize : UInt32) : Reader IoFault UInt64 :=
  if shortSize = 1 then readU64 else pure shortSize.toUInt64

/-- The payload behind a header of `offset` bytes.  Size 0 means the rest of the
buffer, and a size smaller than the header underflows. -/
def extractData (checks : OverflowChecks) (size offset : UInt64) : Reader IoFault Bytes :=
  if size = 0 then extractRemaining
  else if checks = .on ∧ size < offset then fail .panic
  else extractBytes (size - offset).toNat

def demux (checks : OverflowChecks) : Reader IoFault (BoxHeader × Bytes) := do
  let shortSize ← readU32
  let boxType ← readFourCC
  let offset : UInt64 := if shortSize = 1 then 16 else 8
  let size ← readSize shortSize
  let data ← extractData checks size offset
  return (⟨boxType⟩, data)

end BoxHeader

structure FullBoxHeader where
  header : BoxHeader
  version : UInt8
  flags : UInt32
  deriving DecidableEq, Repr

namespace FullBoxHeader

def new (boxType : FourCC) (version : UInt8) (flags : UInt32) : FullBoxHeader :=
  ⟨⟨boxType⟩, version, flags⟩

def demux (header : BoxHeader) : Reader IoFault FullBoxHeader := do
  let version ← readU8
  let flags ← readU24
  return ⟨header, version, flags⟩

def mux (header : FullBoxHeader) : Except IoFault Bytes := do
  let flags ← writeU24 header.flags
  return [header.version] ++ flags

def size (_ : FullBoxHeader) : Nat := 1 + 3

/-- The bytes of a full header whose flags fit their three bytes. -/
def bytes (header : FullBoxHeader) : Bytes :=
  [header.version] ++ toBytesBE 3 header.flags.toNat

@[simp]
theorem length_bytes (header : FullBoxHeader) : header.bytes.length = 4 := by
  rw [bytes, List.length_append, length_toBytesBE, List.length_singleton]

theorem mux_eq_ok {header : FullBoxHeader} (small : header.flags.toNat < 2 ^ 24) :
    header.mux = .ok header.bytes := by
  unfold mux writeU24
  rw [if_pos small]
  rfl

theorem length_mux {header : FullBoxHeader} {bytes : Bytes} (written : header.mux = .ok bytes) :
    bytes.length = header.size := by
  unfold mux writeU24 at written
  split at written
  · cases written
    rw [List.length_append, length_toBytesBE]
    rfl
  · cases written

/-- What begins with a full header is written only if the flags fit. -/
theorem small_of_headed {header : FullBoxHeader} {next : Bytes → Except IoFault Bytes}
    {payload : Bytes} (written : (header.mux >>= next) = .ok payload) :
    header.flags.toNat < 2 ^ 24 := by
  obtain ⟨first, headerWritten, _⟩ := sequence_eq_ok_iff.mp written
  by_contra large
  unfold mux writeU24 at headerWritten
  rw [if_neg large] at headerWritten
  cases headerWritten

/-- A full header in front of a body. -/
theorem length_headed {header : FullBoxHeader} {body payload : Bytes}
    (written : (do let first ← header.mux; return first ++ body) = .ok payload) :
    payload.length = header.size + body.length := by
  obtain ⟨first, headerWritten, same⟩ := sequence_eq_ok_iff.mp written
  cases same
  rw [List.length_append, length_mux headerWritten]

instance demux_returns (header : BoxHeader) : Returns (demux header) := Returns.bind

theorem demux_reads {header : FullBoxHeader} (small : header.flags.toNat < 2 ^ 24) :
    Reads (demux header.header) header.bytes header := by
  apply (Reads.readU8 header.version).bind
  apply (Reads.readU24 small).finish
  exact Reads.pure header

end FullBoxHeader

/-! ## Room for tables -/

/-- The allocator.  It answers a request by its size alone: the table of a box type finds
room up to so many entries, or always.  Tables whose number has 16 bits at most, and those
that grow while they are read, are taken to find room. -/
structure Memory where
  limit : FourCC → Option Nat

namespace Memory

def unlimited : Memory := ⟨fun _ => none⟩

/-- There is no room for a table of so many entries. -/
def Refuses (memory : Memory) (boxType : FourCC) (count : Nat) : Prop :=
  ∃ limit, memory.limit boxType = some limit ∧ limit < count

end Memory

/-- `Vec::with_capacity`, which aborts the process when there is no room. -/
def allocate (memory : Memory) (boxType : FourCC) (count : Nat) : Reader IoFault Unit :=
  match memory.limit boxType with
  | none => pure ()
  | some limit => if limit < count then fail .panic else pure ()

/-- What is allocated takes nothing from the payload. -/
theorem allocate_reads (boxType : FourCC) (count : Nat) :
    Reads (allocate .unlimited boxType count) [] () :=
  Reads.pure ()

/-- What decides how a box is read beside its bytes: whether arithmetic traps overflow, and
the memory at hand. -/
structure Build where
  checks : OverflowChecks
  memory : Memory

/-- Where the memory is not said, every table finds room. -/
instance : Coe OverflowChecks Build := ⟨fun checks => ⟨checks, .unlimited⟩⟩

/-! ## The box trait -/

class BoxType (β : Type) where
  name : FourCC
  demux : Build → BoxHeader → Bytes → Except IoFault β
  primitiveSize : β → Nat
  primitiveMux : β → Except IoFault Bytes
  validate : β → Except IoFault Unit

/-- The size of a box from the size of its payload. -/
def boxSize (primitiveSize : Nat) : Nat :=
  if u32Max < primitiveSize + 8 then primitiveSize + 8 + 8 else primitiveSize + 8

theorem boxSize_le (primitiveSize : Nat) : boxSize primitiveSize ≤ primitiveSize + 16 := by
  unfold boxSize
  split <;> omega

/-- The header of a box of the given total size. -/
def boxHeader (name : FourCC) (size : Nat) : Bytes :=
  (if u32Max < size then toBytesBE 4 1 else toBytesBE 4 size) ++ name.bytes ++
    (if u32Max < size then toBytesBE 8 size else [])

/-- A payload with its box header in front. -/
def frame (name : FourCC) (payload : Bytes) : Bytes :=
  boxHeader name (boxSize payload.length) ++ payload

namespace BoxType

variable {β : Type} [BoxType β]

def size (box : β) : Nat := boxSize (primitiveSize box)

def mux (box : β) : Except IoFault Bytes := do
  validate box
  let payload ← primitiveMux box
  return boxHeader (name β) (size box) ++ payload

end BoxType

def sizeOption {β : Type} [BoxType β] : Option β → Nat
  | none => 0
  | some box => BoxType.size box

def muxOption {β : Type} [BoxType β] : Option β → Except IoFault Bytes
  | none => .ok []
  | some box => BoxType.mux box

/-- What a box of the type writes is as long as its measured size. -/
class ExactSize (β : Type) [BoxType β] : Prop where
  exact : ∀ (box : β) (payload : Bytes), BoxType.validate box = .ok () →
    BoxType.primitiveMux box = .ok payload → payload.length = BoxType.primitiveSize box

/-- Reading a payload as a box of the type returns a box or an error. -/
class DemuxReturns (β : Type) [BoxType β] : Prop where
  returned : ∀ (build : Build) (header : BoxHeader) (data : Bytes) (fault : IoFault),
    (BoxType.demux build header data : Except IoFault β) = .error fault →
      fault.isReturned = true

/-! ## Checks -/

def refuse (condition : Bool) (message : String) : Except IoFault Unit :=
  if condition then .error (.invalidData message) else .ok ()

/-- Version 0 and no flags, for the box that messages call `subject`. -/
def FullBoxHeader.checkPlain (header : FullBoxHeader) (subject : String) : Except IoFault Unit := do
  refuse (header.version != 0) (subject ++ " version must be 0")
  refuse (header.flags != 0) (subject ++ " flags must be 0")

def hasFlag (flags mask : UInt32) : Bool := flags &&& mask != 0

def flagIf (present : Bool) (mask : UInt32) : UInt32 := if present then mask else 0

/-- A flag and the field that it announces must agree. -/
def checkFlag (announced absent present : Bool) (missing surplus : String) :
    Except IoFault Unit :=
  if announced && absent then .error (.invalidData missing)
  else if !announced && present then .error (.invalidData surplus)
  else .ok ()

theorem andThen_eq_ok {first next : Except IoFault Unit} :
    (do first; next) = .ok () ↔ first = .ok () ∧ next = .ok () := by
  cases first with
  | error fault =>
      constructor
      · intro impossible; cases impossible
      · rintro ⟨impossible, _⟩; cases impossible
  | ok _ => exact ⟨fun done => ⟨rfl, done⟩, fun both => both.2⟩

theorem refuse_eq_ok {condition : Bool} {message : String} :
    refuse condition message = .ok () ↔ condition = false := by
  cases condition <;> simp [refuse]

theorem checkFlag_eq_ok {announced absent present : Bool} {missing surplus : String} :
    checkFlag announced absent present missing surplus = .ok () ↔
      (announced = true → absent = false) ∧ (announced = false → present = false) := by
  cases announced <;> cases absent <;> cases present <;> simp [checkFlag]

/-- An optional field is accepted when it is present exactly if its flag is set. -/
theorem checkFlag_option {γ : Type} {announced : Bool} {value : Option γ}
    {missing surplus : String} :
    checkFlag announced value.isNone value.isSome missing surplus = .ok () ↔
      announced = value.isSome := by
  rw [checkFlag_eq_ok]
  cases announced <;> cases value <;> simp

/-- A field of records is accepted when each of them has it exactly if its flag
is set. -/
theorem checkFlag_each {α γ : Type} {announced : Bool} {values : List α} {field : α → Option γ}
    {missing surplus : String} :
    checkFlag announced (values.any fun value => (field value).isNone)
        (values.any fun value => (field value).isSome) missing surplus = .ok () ↔
      ∀ value ∈ values, announced = (field value).isSome := by
  rw [checkFlag_eq_ok, List.any_eq_false, List.any_eq_false]
  constructor
  · rintro ⟨whenSet, whenClear⟩ value member
    cases announced with
    | false => exact (Bool.eq_false_iff.mpr (whenClear rfl value member)).symm
    | true =>
        have present := whenSet rfl value member
        rw [Option.isNone_iff_eq_none, ← ne_eq, ← Option.isSome_iff_ne_none] at present
        exact present.symm
  · intro agree
    refine ⟨fun set value member => ?_, fun clear value member => ?_⟩
    · rw [Option.isNone_iff_eq_none, ← ne_eq, ← Option.isSome_iff_ne_none, ← agree value member]
      exact set
    · rw [← agree value member, clear]
      exact Bool.false_ne_true

theorem forM_eq_ok {α : Type} {check : α → Except IoFault Unit} {values : List α} :
    values.forM check = .ok () ↔ ∀ value ∈ values, check value = .ok () := by
  induction values with
  | nil => exact ⟨fun _ _ member => (List.not_mem_nil member).elim, fun _ => rfl⟩
  | cons value values ih =>
      rw [List.forall_mem_cons, ← ih]
      exact andThen_eq_ok

/-! ## Boxes found by type -/

/-- A later box of a known type replaces an earlier one. -/
def lastOf {α β : Type} (pick : α → Option β) (values : List α) : Option β :=
  (values.filterMap pick).getLast?

theorem lastOf_eq_none_iff {α β : Type} {pick : α → Option β} {values : List α} :
    lastOf pick values = none ↔ ∀ value ∈ values, pick value = none := by
  simp [lastOf]

/-! ## Framing -/

@[simp]
theorem length_boxHeader (name : FourCC) (size : Nat) :
    (boxHeader name size).length = if u32Max < size then 16 else 8 := by
  unfold boxHeader
  split <;> simp only [List.length_append, length_toBytesBE, FourCC.length_bytes, List.length_nil]

/-- A framed payload is exactly as long as its header says. -/
@[simp]
theorem length_frame (name : FourCC) (payload : Bytes) :
    (frame name payload).length = boxSize payload.length := by
  rw [frame, List.length_append, length_boxHeader]
  unfold boxSize u32Max
  split
  · rw [if_pos (by omega)]
    omega
  · omega

theorem frame_ne_nil (name : FourCC) (payload : Bytes) : frame name payload ≠ [] := by
  intro empty
  have length := length_frame name payload
  rw [empty] at length
  unfold boxSize at length
  split at length <;> simp at length

/-- A header whose size counts itself and the payload cuts the payload out. -/
theorem extractData_reads (checks : OverflowChecks) {size offset : UInt64} {payload : Bytes}
    (counted : size.toNat = payload.length + offset.toNat) (positive : 0 < offset.toNat) :
    Reads (BoxHeader.extractData checks size offset) payload payload := by
  have within : offset ≤ size := by
    rw [UInt64.le_iff_toNat_le]
    omega
  have length : payload.length = (size - offset).toNat := by
    rw [UInt64.toNat_sub_of_le _ _ within]
    omega
  have nonzero : size ≠ 0 := by
    intro zero
    rw [zero] at counted
    simp only [UInt64.toNat_zero] at counted
    omega
  have enough : ¬(checks = .on ∧ size < offset) := by
    rintro ⟨_, small⟩
    exact UInt64.not_lt.mpr within small
  unfold BoxHeader.extractData
  rw [if_neg nonzero, if_neg enough]
  exact Reads.extractBytes length

/-- Cutting a framed payload out recovers its type and its bytes, in both header
forms. -/
theorem demux_frame (checks : OverflowChecks) (name : FourCC) {payload : Bytes}
    (room : payload.length + 16 < 2 ^ 64) :
    Reads (BoxHeader.demux checks) (frame name payload) (⟨name⟩, payload) := by
  unfold frame boxHeader boxSize
  by_cases large : u32Max < payload.length + 8
  · have size : (UInt64.ofNat (payload.length + 16)).toNat = payload.length + 16 :=
      UInt64.toNat_ofNat_of_lt' room
    have field := Reads.readU64 (ε := IoFault) (UInt64.ofNat (payload.length + 16))
    rw [size] at field
    rw [if_pos large, if_pos (by omega), if_pos (by omega)]
    simp only [List.append_assoc]
    apply (Reads.readU32 1).bind
    apply (Reads.readFourCC name).bind
    apply field.bind
    apply (extractData_reads checks size (by decide)).finish
    exact Reads.pure _
  · have short : payload.length + 8 < 2 ^ 32 := by
      unfold u32Max at large
      omega
    have size : (UInt32.ofNat (payload.length + 8)).toNat = payload.length + 8 :=
      UInt32.toNat_ofNat_of_lt' short
    have field := Reads.readU32 (ε := IoFault) (UInt32.ofNat (payload.length + 8))
    rw [size] at field
    have shortForm : UInt32.ofNat (payload.length + 8) ≠ 1 := by
      rw [ne_eq, ← UInt32.toNat_inj, size]
      simp
    rw [if_neg large, if_neg large, if_neg large]
    simp only [List.append_nil, List.append_assoc]
    apply field.bind
    apply (Reads.readFourCC name).bind
    rw [BoxHeader.readSize, if_neg shortForm, if_neg shortForm]
    apply (Reads.pure (UInt32.ofNat (payload.length + 8)).toUInt64).bind
    apply (extractData_reads checks (by rw [UInt32.toNat_toUInt64, size]; rfl) (by decide)).finish
    exact Reads.pure _

/-! ## Boxes and their payloads -/

/-- The box passes its own checks, is written as `payload`, and its measured
size is that of the bytes. -/
structure Written {β : Type} [BoxType β] (box : β) (payload : Bytes) : Prop where
  valid : BoxType.validate box = .ok ()
  written : BoxType.primitiveMux box = .ok payload
  sized : BoxType.primitiveSize box = payload.length

namespace Written

variable {β : Type} [BoxType β] {box : β} {payload : Bytes}

theorem mux (box_written : Written box payload) :
    BoxType.mux box = .ok (frame (BoxType.name β) payload) := by
  unfold BoxType.mux BoxType.size frame
  rw [box_written.valid, box_written.written, box_written.sized]
  rfl

theorem exact (box_written : Written box payload) {other : Bytes}
    (written : BoxType.primitiveMux box = .ok other) :
    other.length = BoxType.primitiveSize box := by
  rw [box_written.written] at written
  cases written
  exact box_written.sized.symm

theorem size (box_written : Written box payload) :
    BoxType.size box = (frame (BoxType.name β) payload).length := by
  rw [BoxType.size, box_written.sized, length_frame]

end Written

end ScuffleVideo.Mp4
