import ScuffleVideo.Mp4.BoxType

/-!
# Track runs

A track run lists samples.  Flags in the header say which fields every sample
carries, and the version says whether the composition time offsets are signed.
What `validate` accepts has the size it announces and reads back as it was,
provided the offsets fit the field the version selects.
-/

namespace ScuffleVideo.Mp4

open Wire Wire.Reader

/-! ## Sample flags -/

structure TrunSampleFlag where
  reserved : UInt8
  isLeading : UInt8
  sampleDependsOn : UInt8
  sampleIsDependedOn : UInt8
  sampleHasRedundancy : UInt8
  samplePaddingValue : UInt8
  sampleIsNonSyncSample : Bool
  sampleDegradationPriority : UInt16
  deriving DecidableEq, Repr

namespace TrunSampleFlag

def validate (flag : TrunSampleFlag) : Except IoFault Unit := do
  refuse (flag.reserved != 0) "reserved bits must be 0"
  refuse (2 < flag.isLeading) "is_leading must be 0, 1 or 2"
  refuse (2 < flag.sampleDependsOn) "sample_depends_on must be 0, 1 or 2"
  refuse (2 < flag.sampleIsDependedOn) "sample_is_depended_on must be 0, 1 or 2"
  refuse (2 < flag.sampleHasRedundancy) "sample_has_redundancy must be 0, 1 or 2"
  refuse (7 < flag.samplePaddingValue) "sample_padding_value must be 0, 1, 2, 3, 4, 5, 6 or 7"

def ofU32 (value : UInt32) : TrunSampleFlag where
  reserved := (value >>> 28).toUInt8
  isLeading := ((value >>> 26) &&& 0b11).toUInt8
  sampleDependsOn := ((value >>> 24) &&& 0b11).toUInt8
  sampleIsDependedOn := ((value >>> 22) &&& 0b11).toUInt8
  sampleHasRedundancy := ((value >>> 20) &&& 0b11).toUInt8
  samplePaddingValue := ((value >>> 17) &&& 0b111).toUInt8
  sampleIsNonSyncSample := (value >>> 16) &&& 0b1 != 0
  sampleDegradationPriority := (value &&& 0xFFFF).toUInt16

def toU32 (flag : TrunSampleFlag) : UInt32 :=
  flag.reserved.toUInt32 <<< 28 |||
    flag.isLeading.toUInt32 <<< 26 |||
    flag.sampleDependsOn.toUInt32 <<< 24 |||
    flag.sampleIsDependedOn.toUInt32 <<< 22 |||
    flag.sampleHasRedundancy.toUInt32 <<< 20 |||
    flag.samplePaddingValue.toUInt32 <<< 17 |||
    flag.sampleIsNonSyncSample.toUInt32 <<< 16 |||
    flag.sampleDegradationPriority.toUInt32

theorem validate_eq_ok {flag : TrunSampleFlag} (valid : flag.validate = .ok ()) :
    flag.reserved = 0 ∧ flag.isLeading ≤ 2 ∧ flag.sampleDependsOn ≤ 2 ∧
      flag.sampleIsDependedOn ≤ 2 ∧ flag.sampleHasRedundancy ≤ 2 ∧
      flag.samplePaddingValue ≤ 7 := by
  unfold validate at valid
  simp only [andThen_eq_ok, refuse_eq_ok, bne_eq_false_iff_eq, decide_eq_false_iff_not,
    UInt8.not_lt] at valid
  exact valid

/-- A byte field shifted to its place in the packed word. -/
theorem toNat_placed (width : Nat) {field : UInt8} {place : UInt32}
    (small : field.toNat < 2 ^ width) (fits : width + place.toNat ≤ 32) (inside : place.toNat < 32) :
    (field.toUInt32 <<< place).toNat = field.toNat * 2 ^ place.toNat := by
  rw [UInt32.toNat_shiftLeft, Nat.mod_eq_of_lt inside, Nat.shiftLeft_eq, UInt8.toNat_toUInt32]
  apply Nat.mod_eq_of_lt
  calc field.toNat * 2 ^ place.toNat < 2 ^ width * 2 ^ place.toNat :=
        Nat.mul_lt_mul_of_pos_right small (Nat.two_pow_pos _)
    _ = 2 ^ (width + place.toNat) := (Nat.pow_add _ _ _).symm
    _ ≤ 2 ^ 32 := Nat.pow_le_pow_right (by decide) fits

/-- Bits that lie below all the bits on the left are added. -/
theorem or_eq_add (place : Nat) {bits high low : Nat} (same : bits = high)
    (multiple : 2 ^ place ∣ high) (below : low < 2 ^ place) : bits ||| low = high + low := by
  obtain ⟨factor, rfl⟩ := multiple
  rw [same]
  exact (Nat.two_pow_add_eq_or_of_lt below factor).symm

/-- The number that a shift and a mask cut out of the packed word. -/
theorem toNat_extracted (position width : Nat) (value : UInt32) {place mask : UInt32}
    (placed : place.toNat = position) (ones : mask.toNat = 2 ^ width - 1)
    (inside : position < 32) :
    ((value >>> place) &&& mask).toNat = value.toNat / 2 ^ position % 2 ^ width := by
  rw [UInt32.toNat_and, UInt32.toNat_shiftRight, placed, Nat.mod_eq_of_lt inside, ones,
    Nat.and_two_pow_sub_one_eq_mod, Nat.shiftRight_eq_div_pow]

theorem extracted_eq (position width : Nat) {value place mask : UInt32} {field : UInt8}
    (placed : place.toNat = position) (ones : mask.toNat = 2 ^ width - 1)
    (inside : position < 32) (found : value.toNat / 2 ^ position % 2 ^ width = field.toNat) :
    ((value >>> place) &&& mask).toUInt8 = field := by
  rw [← UInt8.toNat_inj, UInt32.toNat_toUInt8,
    toNat_extracted position width value placed ones inside, found]
  exact Nat.mod_eq_of_lt field.toNat_lt

theorem toNat_nonSync (flag : TrunSampleFlag) :
    (flag.sampleIsNonSyncSample.toUInt32 <<< 16).toNat =
      flag.sampleIsNonSyncSample.toNat * 2 ^ 16 := by
  cases flag.sampleIsNonSyncSample <;> rfl

/-- The packed word of valid flags is the sum of its fields, each at its place. -/
theorem toNat_toU32 {flag : TrunSampleFlag} (valid : flag.validate = .ok ()) :
    flag.toU32.toNat =
      flag.isLeading.toNat * 2 ^ 26 + flag.sampleDependsOn.toNat * 2 ^ 24 +
        flag.sampleIsDependedOn.toNat * 2 ^ 22 + flag.sampleHasRedundancy.toNat * 2 ^ 20 +
        flag.samplePaddingValue.toNat * 2 ^ 17 + flag.sampleIsNonSyncSample.toNat * 2 ^ 16 +
        flag.sampleDegradationPriority.toNat := by
  obtain ⟨reserved, leading, dependsOn, dependedOn, redundancy, padding⟩ := validate_eq_ok valid
  rw [UInt8.le_iff_toNat_le] at leading dependsOn dependedOn redundancy padding
  simp only [UInt8.reduceToNat] at leading dependsOn dependedOn redundancy padding
  have priority : flag.sampleDegradationPriority.toNat < 2 ^ 16 :=
    flag.sampleDegradationPriority.toNat_lt
  have nonSync : flag.sampleIsNonSyncSample.toNat ≤ 1 := Bool.toNat_le _
  have zero : (flag.reserved.toUInt32 <<< 28).toNat = 0 := by rw [reserved]; rfl
  simp only [toU32, UInt32.toNat_or, zero, Nat.zero_or]
  rw [toNat_placed 2 (by omega) (by decide) (by decide),
    toNat_placed 2 (by omega) (by decide) (by decide),
    toNat_placed 2 (by omega) (by decide) (by decide),
    toNat_placed 2 (by omega) (by decide) (by decide),
    toNat_placed 3 (by omega) (by decide) (by decide), toNat_nonSync, UInt16.toNat_toUInt32]
  simp only [UInt32.reduceToNat]
  apply or_eq_add 16 ?_ (by omega) (by omega)
  apply or_eq_add 17 ?_ (by omega) (by omega)
  apply or_eq_add 20 ?_ (by omega) (by omega)
  apply or_eq_add 22 ?_ (by omega) (by omega)
  apply or_eq_add 24 ?_ (by omega) (by omega)
  apply or_eq_add 26 rfl (by omega) (by omega)

/-- Valid flags survive packing. -/
theorem ofU32_toU32 {flag : TrunSampleFlag} (valid : flag.validate = .ok ()) :
    ofU32 flag.toU32 = flag := by
  have packed := toNat_toU32 valid
  obtain ⟨reserved, leading, dependsOn, dependedOn, redundancy, padding⟩ := validate_eq_ok valid
  rw [UInt8.le_iff_toNat_le] at leading dependsOn dependedOn redundancy padding
  simp only [UInt8.reduceToNat] at leading dependsOn dependedOn redundancy padding
  have priority : flag.sampleDegradationPriority.toNat < 2 ^ 16 :=
    flag.sampleDegradationPriority.toNat_lt
  have nonSync : flag.sampleIsNonSyncSample.toNat ≤ 1 := Bool.toNat_le _
  have atReserved : (flag.toU32 >>> 28).toUInt8 = flag.reserved := by
    rw [reserved, ← UInt8.toNat_inj, UInt32.toNat_toUInt8, UInt32.toNat_shiftRight,
      Nat.shiftRight_eq_div_pow, packed]
    simp only [UInt32.reduceToNat, UInt8.reduceToNat, Nat.reduceMod]
    omega
  have atNonSync : ((flag.toU32 >>> 16) &&& 0b1 != 0) = flag.sampleIsNonSyncSample := by
    have same : ((flag.toU32 >>> 16) &&& 0b1).toNat = flag.sampleIsNonSyncSample.toNat := by
      rw [toNat_extracted 16 1 flag.toU32 rfl rfl (by decide), packed]
      omega
    cases sync : flag.sampleIsNonSyncSample with
    | false =>
        rw [sync] at same
        rw [UInt32.toNat_inj.mp (same.trans (show false.toNat = (0 : UInt32).toNat from rfl))]
        rfl
    | true =>
        rw [sync] at same
        rw [UInt32.toNat_inj.mp (same.trans (show true.toNat = (1 : UInt32).toNat from rfl))]
        rfl
  have atPriority : (flag.toU32 &&& 0xFFFF).toUInt16 = flag.sampleDegradationPriority := by
    rw [← UInt16.toNat_inj, UInt32.toNat_toUInt16, UInt32.toNat_and,
      show (0xFFFF : UInt32).toNat = 2 ^ 16 - 1 from rfl, Nat.and_two_pow_sub_one_eq_mod, packed]
    omega
  unfold ofU32
  rw [atReserved, atNonSync, atPriority,
    extracted_eq 26 2 rfl rfl (by decide)
      (show flag.toU32.toNat / 2 ^ 26 % 2 ^ 2 = flag.isLeading.toNat by omega),
    extracted_eq 24 2 rfl rfl (by decide)
      (show flag.toU32.toNat / 2 ^ 24 % 2 ^ 2 = flag.sampleDependsOn.toNat by omega),
    extracted_eq 22 2 rfl rfl (by decide)
      (show flag.toU32.toNat / 2 ^ 22 % 2 ^ 2 = flag.sampleIsDependedOn.toNat by omega),
    extracted_eq 20 2 rfl rfl (by decide)
      (show flag.toU32.toNat / 2 ^ 20 % 2 ^ 2 = flag.sampleHasRedundancy.toNat by omega),
    extracted_eq 17 3 rfl rfl (by decide)
      (show flag.toU32.toNat / 2 ^ 17 % 2 ^ 3 = flag.samplePaddingValue.toNat by omega)]

end TrunSampleFlag

/-! ## Runs -/

structure TrunSample where
  duration : Option UInt32
  size : Option UInt32
  flags : Option TrunSampleFlag
  compositionTimeOffset : Option Int64
  deriving DecidableEq, Repr

structure Trun where
  header : FullBoxHeader
  dataOffset : Option Int32
  firstSampleFlags : Option TrunSampleFlag
  samples : List TrunSample
  deriving DecidableEq, Repr

namespace Trun

def name : FourCC := .ofChars 't' 'r' 'u' 'n'

def flagDataOffset : UInt32 := 0x000001
def flagFirstSampleFlags : UInt32 := 0x000004
def flagSampleCompositionTimeOffset : UInt32 := 0x000800
def flagSampleDuration : UInt32 := 0x000100
def flagSampleFlags : UInt32 := 0x000400
def flagSampleSize : UInt32 := 0x000200

def new (samples : List TrunSample) (firstSampleFlags : Option TrunSampleFlag) : Trun :=
  let flags :=
    match samples with
    | [] => flagDataOffset
    | first :: _ =>
        flagDataOffset ||| flagIf first.duration.isSome flagSampleDuration |||
          flagIf first.size.isSome flagSampleSize ||| flagIf first.flags.isSome flagSampleFlags |||
          flagIf first.compositionTimeOffset.isSome flagSampleCompositionTimeOffset
  let version :=
    if samples.any fun sample => sample.compositionTimeOffset.any (· < 0) then 1 else 0
  ⟨.new name version flags, some 0, firstSampleFlags, samples⟩

/-! ### Reading -/

def readFlags : Reader IoFault TrunSampleFlag := do
  return .ofU32 (← readU32)

def readOffset (version : UInt8) : Reader IoFault Int64 :=
  if version = 1 then do return (← readI32).toInt64
  else do return (← readU32).toUInt64.toInt64

def readSample (header : FullBoxHeader) : Reader IoFault TrunSample := do
  let duration ← optionally (hasFlag header.flags flagSampleDuration) readU32
  let size ← optionally (hasFlag header.flags flagSampleSize) readU32
  let flags ← optionally (hasFlag header.flags flagSampleFlags) readFlags
  let compositionTimeOffset ←
    optionally (hasFlag header.flags flagSampleCompositionTimeOffset) (readOffset header.version)
  return ⟨duration, size, flags, compositionTimeOffset⟩

def read (memory : Memory) (header : BoxHeader) : Reader IoFault Trun := do
  let full ← FullBoxHeader.demux header
  let sampleCount ← readU32
  let dataOffset ← optionally (hasFlag full.flags flagDataOffset) readI32
  let firstSampleFlags ← optionally (hasFlag full.flags flagFirstSampleFlags) readFlags
  allocate memory header.boxType sampleCount.toNat
  let samples ← repeated (readSample full) sampleCount.toNat
  return ⟨full, dataOffset, firstSampleFlags, samples⟩

/-! ### Measuring and writing -/

def sampleSize (flags : UInt32) : Nat :=
  (if hasFlag flags flagSampleDuration then 4 else 0) +
    (if hasFlag flags flagSampleSize then 4 else 0) +
    (if hasFlag flags flagSampleFlags then 4 else 0) +
    (if hasFlag flags flagSampleCompositionTimeOffset then 4 else 0)

def primitiveSize (trun : Trun) : Nat :=
  trun.header.size + 4 +
    (if hasFlag trun.header.flags flagDataOffset then 4 else 0) +
    (if hasFlag trun.header.flags flagFirstSampleFlags then 4 else 0) +
    (trun.samples.map fun _ => sampleSize trun.header.flags).sum

def flagsBytes (flags : TrunSampleFlag) : Bytes := beU32 flags.toU32

def offsetBytes (version : UInt8) (offset : Int64) : Bytes :=
  if version = 1 then beI32 offset.toInt32 else beU32 offset.toUInt64.toUInt32

def sampleBytes (version : UInt8) (sample : TrunSample) : Bytes :=
  optional beU32 sample.duration ++ optional beU32 sample.size ++
    optional flagsBytes sample.flags ++ optional (offsetBytes version) sample.compositionTimeOffset

/-- Everything after the full header. -/
def body (trun : Trun) : Bytes :=
  beU32 (UInt32.ofNat trun.samples.length) ++
    optional beI32 trun.dataOffset ++
    optional flagsBytes trun.firstSampleFlags ++
    trun.samples.flatMap (sampleBytes trun.header.version)

def primitiveMux (trun : Trun) : Except IoFault Bytes := do
  let header ← trun.header.mux
  return header ++ trun.body

def validateFlags : Option TrunSampleFlag → Except IoFault Unit
  | some flags => flags.validate
  | none => .ok ()

def validate (trun : Trun) : Except IoFault Unit := do
  let version := trun.header.version
  let flags := trun.header.flags
  let hasOffsets := hasFlag flags flagSampleCompositionTimeOffset
  refuse (1 < version) "trun version must be 0 or 1"
  refuse (!hasOffsets && version == 1)
    "trun version must be 0 if sample composition time offset is not present"
  checkFlag (hasFlag flags flagDataOffset) trun.dataOffset.isNone trun.dataOffset.isSome
    "trun data offset is present but not set"
    "trun data offset is not present but set"
  checkFlag (hasFlag flags flagFirstSampleFlags) trun.firstSampleFlags.isNone
    trun.firstSampleFlags.isSome
    "trun first sample flags is present but not set"
    "trun first sample flags is not present but set"
  checkFlag (hasFlag flags flagSampleDuration) (trun.samples.any (·.duration.isNone))
    (trun.samples.any (·.duration.isSome))
    "trun sample duration is present but not set"
    "trun sample duration is not present but set"
  checkFlag (hasFlag flags flagSampleSize) (trun.samples.any (·.size.isNone))
    (trun.samples.any (·.size.isSome))
    "trun sample size is present but not set"
    "trun sample size is not present but set"
  checkFlag (hasFlag flags flagSampleFlags) (trun.samples.any (·.flags.isNone))
    (trun.samples.any (·.flags.isSome))
    "trun sample flags is present but not set"
    "trun sample flags is not present but set"
  checkFlag hasOffsets (trun.samples.any (·.compositionTimeOffset.isNone))
    (trun.samples.any (·.compositionTimeOffset.isSome))
    "trun sample composition time offset is present but not set"
    "trun sample composition time offset is not present but set"
  refuse (hasOffsets && version == 1 &&
      trun.samples.any (·.compositionTimeOffset.any (Int32.maxValue.toInt64 < ·)))
    "trun sample composition time offset cannot be larger than i32::MAX"
  refuse (hasOffsets && version == 0 &&
      trun.samples.any (·.compositionTimeOffset.any (0xFFFFFFFF < ·)))
    "trun sample composition time offset cannot be larger than u32::MAX"
  validateFlags trun.firstSampleFlags
  trun.samples.forM fun sample => validateFlags sample.flags

instance : BoxType Trun where
  name := name
  demux build header data := (read build.memory header).parse data
  primitiveSize := primitiveSize
  primitiveMux := primitiveMux
  validate := validate

@[simp]
theorem boxName : BoxType.name Trun = name := rfl

/-! ### What validation guarantees -/

/-- A run that `validate` accepts: the flags of the header say exactly which fields
are present, the offsets are not above the range of their field, and all sample
flags fit their bits. -/
structure Valid (trun : Trun) : Prop where
  version : trun.header.version ≤ 1
  signed : trun.header.version = 1 →
    hasFlag trun.header.flags flagSampleCompositionTimeOffset = true
  dataOffset : hasFlag trun.header.flags flagDataOffset = trun.dataOffset.isSome
  firstSampleFlags : hasFlag trun.header.flags flagFirstSampleFlags = trun.firstSampleFlags.isSome
  duration : ∀ sample ∈ trun.samples,
    hasFlag trun.header.flags flagSampleDuration = sample.duration.isSome
  size : ∀ sample ∈ trun.samples,
    hasFlag trun.header.flags flagSampleSize = sample.size.isSome
  flags : ∀ sample ∈ trun.samples,
    hasFlag trun.header.flags flagSampleFlags = sample.flags.isSome
  compositionTimeOffset : ∀ sample ∈ trun.samples,
    hasFlag trun.header.flags flagSampleCompositionTimeOffset =
      sample.compositionTimeOffset.isSome
  signedRange : trun.header.version = 1 → ∀ sample ∈ trun.samples, ∀ offset,
    sample.compositionTimeOffset = some offset → offset ≤ Int32.maxValue.toInt64
  unsignedRange : trun.header.version = 0 → ∀ sample ∈ trun.samples, ∀ offset,
    sample.compositionTimeOffset = some offset → offset ≤ 0xFFFFFFFF
  firstSampleFlagsValid : validateFlags trun.firstSampleFlags = .ok ()
  flagsValid : ∀ sample ∈ trun.samples, validateFlags sample.flags = .ok ()

/-- One of the two range checks, given that the offsets are announced properly. -/
theorem range_accepted {announced selected : Bool} {bound : Int64} {samples : List TrunSample}
    (present : ∀ sample ∈ samples, announced = sample.compositionTimeOffset.isSome) :
    (announced && selected && samples.any (·.compositionTimeOffset.any (bound < ·))) = false ↔
      (selected = true → ∀ sample ∈ samples, ∀ offset,
        sample.compositionTimeOffset = some offset → offset ≤ bound) := by
  constructor
  · intro accepted selection sample member offset found
    have shown := present sample member
    rw [found, Option.isSome_some] at shown
    rw [shown, selection, Bool.and_self, Bool.true_and, List.any_eq_false] at accepted
    have within := accepted sample member
    rw [found, Option.any_some, decide_eq_true_eq, Int64.not_lt] at within
    exact within
  · intro within
    rw [Bool.and_eq_false_imp, Bool.and_eq_true]
    rintro ⟨_, selection⟩
    rw [List.any_eq_false]
    intro sample member
    cases found : sample.compositionTimeOffset with
    | none => simp
    | some offset =>
        rw [Option.any_some, decide_eq_true_eq, Int64.not_lt]
        exact within selection sample member offset found

theorem validate_eq_ok {trun : Trun} : trun.validate = .ok () ↔ Valid trun := by
  unfold validate
  simp only [andThen_eq_ok, refuse_eq_ok, checkFlag_option, checkFlag_each, forM_eq_ok,
    decide_eq_false_iff_not, UInt8.not_lt]
  constructor
  · rintro ⟨version, signed, dataOffset, firstSampleFlags, duration, size, flags,
      compositionTimeOffset, signedRange, unsignedRange, firstSampleFlagsValid, flagsValid⟩
    exact {
      version, dataOffset, firstSampleFlags, duration, size, flags, compositionTimeOffset,
      firstSampleFlagsValid, flagsValid
      signed := fun one => by simpa [one] using signed
      signedRange := fun one =>
        (range_accepted compositionTimeOffset).mp signedRange (beq_iff_eq.mpr one)
      unsignedRange := fun zero =>
        (range_accepted compositionTimeOffset).mp unsignedRange (beq_iff_eq.mpr zero) }
  · intro valid
    refine ⟨valid.version, ?_, valid.dataOffset, valid.firstSampleFlags, valid.duration,
      valid.size, valid.flags, valid.compositionTimeOffset,
      (range_accepted valid.compositionTimeOffset).mpr fun one =>
        valid.signedRange (beq_iff_eq.mp one),
      (range_accepted valid.compositionTimeOffset).mpr fun zero =>
        valid.unsignedRange (beq_iff_eq.mp zero),
      valid.firstSampleFlagsValid, valid.flagsValid⟩
    rw [Bool.and_eq_false_imp]
    intro absent
    rw [beq_eq_false_iff_ne]
    intro one
    rw [valid.signed one] at absent
    cases absent

theorem length_flagsBytes (flags : TrunSampleFlag) : (flagsBytes flags).length = 4 :=
  length_beU32 _

theorem length_offsetBytes (version : UInt8) (offset : Int64) :
    (offsetBytes version offset).length = 4 := by
  unfold offsetBytes
  split
  · exact length_beI32 _
  · exact length_beU32 _

theorem length_sampleBytes {trun : Trun} (valid : Valid trun) {sample : TrunSample}
    (member : sample ∈ trun.samples) :
    (sampleBytes trun.header.version sample).length = sampleSize trun.header.flags := by
  unfold sampleBytes sampleSize
  rw [List.length_append, List.length_append, List.length_append, length_optional length_beU32,
    length_optional length_beU32, length_optional length_flagsBytes,
    length_optional (length_offsetBytes _), valid.duration sample member,
    valid.size sample member, valid.flags sample member,
    valid.compositionTimeOffset sample member]

/-- A valid run is written in exactly the bytes its flags announce. -/
theorem written {trun : Trun} (valid : Valid trun)
    (small : trun.header.flags.toNat < 2 ^ 24) :
    Written trun (trun.header.bytes ++ trun.body) where
  valid := validate_eq_ok.mpr valid
  written := by
    change primitiveMux trun = _
    rw [primitiveMux, FullBoxHeader.mux_eq_ok small]
    rfl
  sized := by
    have samples : (trun.samples.flatMap (sampleBytes trun.header.version)).length =
        (trun.samples.map fun _ => sampleSize trun.header.flags).sum := by
      rw [List.length_flatMap]
      congr 1
      exact List.map_congr_left fun sample member => length_sampleBytes valid member
    change primitiveSize trun = _
    unfold primitiveSize body FullBoxHeader.size
    rw [List.length_append, List.length_append, List.length_append, List.length_append, samples,
      FullBoxHeader.length_bytes, length_beU32, length_optional length_beI32,
      length_optional length_flagsBytes, valid.dataOffset, valid.firstSampleFlags]
    omega

instance : ExactSize Trun where
  exact _ _ valid written :=
    (Trun.written (validate_eq_ok.mp valid) (FullBoxHeader.small_of_headed written)).exact written

instance : Returns readFlags := Returns.bind

instance (version : UInt8) : Returns (readOffset version) := Returns.ite

instance (header : FullBoxHeader) : Returns (readSample header) := Returns.bind

/-! ### Reading a run back -/

/-- The offset is what the field that the version selects can hold. -/
def Representable (version : UInt8) (offset : Int64) : Prop :=
  if version = 1 then offset.toInt32.toInt64 = offset
  else offset.toUInt64.toUInt32.toUInt64.toInt64 = offset

theorem readOffset_reads {version : UInt8} {offset : Int64}
    (representable : Representable version offset) :
    Reads (readOffset version) (offsetBytes version offset) offset := by
  unfold Representable at representable
  unfold readOffset offsetBytes
  split
  · rename_i signed
    rw [if_pos signed] at representable
    have field := (Reads.readI32 (ε := IoFault) offset.toInt32).map Int32.toInt64
    rwa [representable] at field
  · rename_i unsigned
    rw [if_neg unsigned] at representable
    have field := (Reads.readU32 (ε := IoFault) offset.toUInt64.toUInt32).map
      fun number => number.toUInt64.toInt64
    rwa [representable] at field

theorem readFlags_reads {flags : TrunSampleFlag} (valid : flags.validate = .ok ()) :
    Reads readFlags (flagsBytes flags) flags := by
  have field := (Reads.readU32 (ε := IoFault) flags.toU32).map TrunSampleFlag.ofU32
  rwa [TrunSampleFlag.ofU32_toU32 valid] at field

theorem readFlags_reads_of_valid {flags : Option TrunSampleFlag}
    (valid : validateFlags flags = .ok ()) (inner : TrunSampleFlag) (found : flags = some inner) :
    Reads readFlags (flagsBytes inner) inner := by
  rw [found] at valid
  exact readFlags_reads valid

theorem readSample_reads {trun : Trun} (valid : Valid trun) {sample : TrunSample}
    (member : sample ∈ trun.samples)
    (representable : ∀ offset, sample.compositionTimeOffset = some offset →
      Representable trun.header.version offset) :
    Reads (readSample trun.header) (sampleBytes trun.header.version sample) sample := by
  unfold sampleBytes
  rw [List.append_assoc, List.append_assoc]
  apply (Reads.optionally (valid.duration sample member)
    fun duration _ => Reads.readU32 duration).bind
  apply (Reads.optionally (valid.size sample member) fun size _ => Reads.readU32 size).bind
  apply (Reads.optionally (valid.flags sample member)
    (readFlags_reads_of_valid (valid.flagsValid sample member))).bind
  apply (Reads.optionally (valid.compositionTimeOffset sample member)
    fun offset found => readOffset_reads (representable offset found)).finish
  exact Reads.pure sample

/-- A valid run whose offsets fit reads back as it was written. -/
theorem read_reads {trun : Trun} (valid : Valid trun)
    (small : trun.header.flags.toNat < 2 ^ 24) (countable : trun.samples.length < 2 ^ 32)
    (representable : ∀ sample ∈ trun.samples, ∀ offset,
      sample.compositionTimeOffset = some offset → Representable trun.header.version offset) :
    Reads (read .unlimited trun.header.header) (trun.header.bytes ++ trun.body) trun := by
  have count : (UInt32.ofNat trun.samples.length).toNat = trun.samples.length :=
    UInt32.toNat_ofNat_of_lt' countable
  unfold body
  rw [List.append_assoc, List.append_assoc]
  apply (FullBoxHeader.demux_reads small).bind
  apply (Reads.readU32 _).bind
  apply (Reads.optionally valid.dataOffset fun offset _ => Reads.readI32 offset).bind
  apply (Reads.optionally valid.firstSampleFlags
    (readFlags_reads_of_valid valid.firstSampleFlagsValid)).bind
  apply (allocate_reads _ _).bind
  rw [count]
  apply (Reads.repeated fun sample member =>
    readSample_reads valid member (representable sample member)).finish
  exact Reads.pure trun

end Trun

end ScuffleVideo.Mp4
