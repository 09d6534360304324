import ScuffleVideo.Mp4.FragmentRoundTrip
import ScuffleVideo.Transmuxer.Mux

/-!
# The fragment of one sample

`optimize` moves the duration and the size of the only sample into the defaults
of its track, keeps its flags and drops a zero composition offset.  The result
is written, measured and read back; the data offset that was filled in points at
the first byte of the media data.
-/

namespace ScuffleVideo.Transmux

open Wire Wire.Reader Flv Mp4

/-! ## Composition offsets -/

/-- The offset was an unsigned or a signed 32-bit number. -/
def FromWord (offset : Int64) : Prop :=
  (∃ number : UInt32, offset = number.toUInt64.toInt64) ∨
    ∃ number : Int32, offset = number.toInt64

theorem toInt_unsigned (number : UInt32) : number.toUInt64.toInt64.toInt = number.toNat := by
  have small : 2 * number.toUInt64.toBitVec.toNat < 2 ^ 64 := by
    have bound := number.toNat_lt
    change 2 * number.toUInt64.toNat < 2 ^ 64
    rw [UInt32.toNat_toUInt64]
    omega
  change number.toUInt64.toBitVec.toInt = _
  rw [BitVec.toInt_eq_toNat_of_lt small]
  change (number.toUInt64.toNat : Int) = _
  rw [UInt32.toNat_toUInt64]

/-- An offset that is not negative is an unsigned number. -/
theorem FromWord.unsigned {offset : Int64} (word : FromWord offset) (positive : ¬offset < 0) :
    ∃ number : UInt32, offset = number.toUInt64.toInt64 := by
  obtain unsigned | ⟨number, rfl⟩ := word
  · exact unsigned
  · refine ⟨number.toUInt32, ?_⟩
    have sign : 0 ≤ number.toInt := by
      rw [Int64.lt_iff_toInt_lt, Int32.toInt_toInt64] at positive
      simpa using positive
    have nonneg : (0 : Int32) ≤ number := by
      rw [Int32.le_iff_toInt_le]
      simpa using sign
    rw [← Int64.toInt_inj, toInt_unsigned, Int32.toInt_toInt64,
      Int32.toNat_toUInt32_of_le nonneg]
    exact (Int.toNat_of_nonneg sign).symm

/-- A negative offset is a signed number. -/
theorem FromWord.signed {offset : Int64} (word : FromWord offset) (negative : offset < 0) :
    ∃ number : Int32, offset = number.toInt64 := by
  obtain ⟨number, rfl⟩ | signed := word
  · rw [Int64.lt_iff_toInt_lt, toInt_unsigned, Int64.toInt_zero] at negative
    omega
  · exact signed

/-- The version chosen for an offset selects a field that holds it. -/
theorem FromWord.representable {offset : Int64} (word : FromWord offset) :
    Trun.Representable (if offset < 0 then 1 else 0) offset := by
  unfold Trun.Representable
  by_cases negative : offset < 0
  · obtain ⟨number, rfl⟩ := word.signed negative
    rw [if_pos negative, if_pos rfl, Int32.toInt32_toInt64]
  · obtain ⟨number, rfl⟩ := word.unsigned negative
    rw [if_neg negative, if_neg (by decide), UInt64.toUInt64_toInt64, UInt32.toUInt32_toUInt64]

/-! ## The optimized fragment -/

/-- A zero offset is dropped. -/
def keptOffset (offset : Option Int64) : Option Int64 := if offset = some 0 then none else offset

def offsetVersion (offset : Option Int64) : UInt8 := if offset.any (· < 0) then 1 else 0

def fragmentTfhd (trackId duration size : UInt32) : Tfhd :=
  ⟨⟨⟨Tfhd.name⟩, 0, 0x020018⟩, trackId, none, none, some duration, some size, none⟩

def fragmentTrun (dataOffset : Int32) (flags : TrunSampleFlag) (offset : Option Int64) : Trun :=
  ⟨⟨⟨Trun.name⟩, offsetVersion offset, if (keptOffset offset).isSome then 0xC01 else 0x401⟩,
    some dataOffset, none, [⟨none, none, some flags, keptOffset offset⟩]⟩

theorem optimizeOffsets_single (header : FullBoxHeader) (dataOffset : Option Int32)
    (firstFlags : Option TrunSampleFlag) (sample : TrunSample) :
    Traf.optimizeOffsets ⟨header, dataOffset, firstFlags, [sample]⟩ =
      ⟨header, dataOffset, firstFlags,
        [{ sample with compositionTimeOffset := keptOffset sample.compositionTimeOffset }]⟩ := by
  unfold Traf.optimizeOffsets keptOffset
  by_cases zero : sample.compositionTimeOffset = some 0
  · rw [if_pos (by simp [zero]), if_pos zero]
    rfl
  · rw [if_neg (by simp [zero]), if_neg zero]

/-- The run flags of a sample that kept only its flags and maybe an offset. -/
theorem trunFlags_single (header : FullBoxHeader) (flags : TrunSampleFlag)
    (offset : Option Int64) :
    Traf.trunFlags ⟨header, some 0, none, [⟨none, none, some flags, offset⟩]⟩ =
      if offset.isSome then 0xC01 else 0x401 := by
  cases offset with
  | none =>
      change Trun.flagDataOffset ||| 0 ||| 0 ||| 0 ||| Trun.flagSampleFlags ||| 0 = (0x401 : UInt32)
      decide
  | some number =>
      change Trun.flagDataOffset ||| 0 ||| 0 ||| 0 ||| Trun.flagSampleFlags |||
        Trun.flagSampleCompositionTimeOffset = (0xC01 : UInt32)
      decide

/-- The header flags of a track whose defaults are a duration and a size. -/
theorem tfhdFlags_defaults (trackId duration size : UInt32) :
    Traf.tfhdFlags { Tfhd.new trackId none none none none none with
      defaultSampleDuration := some duration, defaultSampleSize := some size } = 0x020018 := by
  change 0 ||| Tfhd.defaultSampleDurationFlag ||| 0 ||| Tfhd.defaultSampleSizeFlag |||
    (0 ||| 0 ||| 0 ||| 0 ||| 0 ||| Tfhd.defaultBaseIsMoofFlag) &&& Tfhd.defaultBaseIsMoofFlag =
    (0x020018 : UInt32)
  decide

theorem sampleTraf_eq (trackId : UInt32) (time : UInt64) (duration size : UInt32)
    (flags : TrunSampleFlag) (offset : Option Int64) :
    sampleTraf trackId time ⟨some duration, some size, some flags, offset⟩ =
      Traf.ofRun (fragmentTfhd trackId duration size) (Tfdt.new time)
        (fragmentTrun 0 flags offset) := by
  have noDuration : (Tfhd.new trackId none none none none none).defaultSampleDuration = none := rfl
  have noSize : (Tfhd.new trackId none none none none none).defaultSampleSize = none := rfl
  have headerFlags := tfhdFlags_defaults trackId duration size
  unfold sampleTraf Trun.new Traf.optimize
  simp only [Traf.new, List.isEmpty_cons, Bool.false_eq_true, if_false, Traf.optimizeFlags,
    optimizeOffsets_single, Traf.optimizeDuration, Traf.optimizeSize, List.all_nil, Bool.and_true,
    noDuration, noSize, Option.isNone_none, if_true, List.map_cons, List.map_nil, headerFlags,
    trunFlags_single, List.any_cons, List.any_nil, Bool.or_false]
  rfl

/-! ## Writing and reading the fragment -/

theorem sampleFlags_valid (independent : Bool) : (sampleFlags independent).validate = .ok () := by
  cases independent <;> decide

theorem fragmentTfhd_valid (trackId duration size : UInt32) :
    (fragmentTfhd trackId duration size).validate = .ok () := by
  have baseDataOffset : hasFlag 0x020018 Tfhd.baseDataOffsetFlag = false := by decide
  have sampleDescriptionIndex : hasFlag 0x020018 Tfhd.sampleDescriptionIndexFlag = false := by
    decide
  have defaultDuration : hasFlag 0x020018 Tfhd.defaultSampleDurationFlag = true := by decide
  have defaultSize : hasFlag 0x020018 Tfhd.defaultSampleSizeFlag = true := by decide
  have defaultFlags : hasFlag 0x020018 Tfhd.defaultSampleFlagsFlag = false := by decide
  simp only [Tfhd.validate, Tfhd.checkField, fragmentTfhd, baseDataOffset,
    sampleDescriptionIndex, defaultDuration, defaultSize, defaultFlags]
  rfl

theorem offsetVersion_of_dropped {offset : Option Int64} (dropped : keptOffset offset = none) :
    offsetVersion offset = 0 := by
  unfold keptOffset at dropped
  split at dropped
  · rename_i zero
    rw [zero]
    decide
  · rw [dropped]
    rfl

theorem eq_of_kept {offset : Option Int64} {number : Int64}
    (kept : keptOffset offset = some number) : offset = some number := by
  unfold keptOffset at kept
  split at kept
  · cases kept
  · exact kept

theorem offsetVersion_of_kept {offset : Option Int64} {number : Int64}
    (kept : keptOffset offset = some number) :
    offsetVersion offset = if number < 0 then 1 else 0 := by
  rw [eq_of_kept kept]
  simp only [offsetVersion, Option.any_some, decide_eq_true_eq]

theorem FromWord.le_max {number : Int64} (word : FromWord number) : number ≤ 0xFFFFFFFF := by
  rw [Int64.le_iff_toInt_le]
  change number.toInt ≤ 0xFFFFFFFF
  obtain ⟨unsigned, rfl⟩ | ⟨signed, rfl⟩ := word
  · have bound := unsigned.toNat_lt
    rw [toInt_unsigned]
    omega
  · have bound := signed.toInt_lt
    rw [Int32.toInt_toInt64]
    omega

theorem FromWord.le_of_negative {number : Int64} (negative : number < 0) :
    number ≤ Int32.maxValue.toInt64 := by
  rw [Int64.lt_iff_toInt_lt, Int64.toInt_zero] at negative
  rw [Int64.le_iff_toInt_le, Int32.toInt_toInt64]
  exact Int.le_trans (Int.le_of_lt negative) (by decide)

/-- The flags of a run that carries sample flags and no offsets. -/
theorem hasFlag_plain :
    hasFlag 0x401 Trun.flagDataOffset = true ∧
      hasFlag 0x401 Trun.flagFirstSampleFlags = false ∧
      hasFlag 0x401 Trun.flagSampleDuration = false ∧ hasFlag 0x401 Trun.flagSampleSize = false ∧
      hasFlag 0x401 Trun.flagSampleFlags = true ∧
      hasFlag 0x401 Trun.flagSampleCompositionTimeOffset = false := by
  decide

/-- The flags of a run that carries sample flags and offsets. -/
theorem hasFlag_offset :
    hasFlag 0xC01 Trun.flagDataOffset = true ∧
      hasFlag 0xC01 Trun.flagFirstSampleFlags = false ∧
      hasFlag 0xC01 Trun.flagSampleDuration = false ∧ hasFlag 0xC01 Trun.flagSampleSize = false ∧
      hasFlag 0xC01 Trun.flagSampleFlags = true ∧
      hasFlag 0xC01 Trun.flagSampleCompositionTimeOffset = true := by
  decide

theorem plainTrun_valid {dataOffset : Int32} {flags : TrunSampleFlag}
    (flagsValid : flags.validate = .ok ()) :
    Trun.Valid ⟨⟨⟨Trun.name⟩, 0, 0x401⟩, some dataOffset, none,
      [⟨none, none, some flags, none⟩]⟩ := by
  obtain ⟨hasOffset, noFirst, noDuration, noSize, hasFlags, noOffsets⟩ := hasFlag_plain
  exact {
    version := (by decide : (0 : UInt8) ≤ 1)
    signed := fun impossible => absurd impossible (by decide : ¬(0 : UInt8) = 1)
    dataOffset := hasOffset
    firstSampleFlags := noFirst
    duration := List.forall_mem_singleton.mpr noDuration
    size := List.forall_mem_singleton.mpr noSize
    flags := List.forall_mem_singleton.mpr hasFlags
    compositionTimeOffset := List.forall_mem_singleton.mpr noOffsets
    signedRange := fun impossible => absurd impossible (by decide : ¬(0 : UInt8) = 1)
    unsignedRange := fun _ => List.forall_mem_singleton.mpr fun _ impossible => by cases impossible
    firstSampleFlagsValid := rfl
    flagsValid := List.forall_mem_singleton.mpr flagsValid }

theorem offsetTrun_valid {dataOffset : Int32} {flags : TrunSampleFlag} {number : Int64}
    (flagsValid : flags.validate = .ok ()) (word : FromWord number) :
    Trun.Valid ⟨⟨⟨Trun.name⟩, if number < 0 then 1 else 0, 0xC01⟩, some dataOffset, none,
      [⟨none, none, some flags, some number⟩]⟩ := by
  obtain ⟨hasOffset, noFirst, noDuration, noSize, hasFlags, hasOffsets⟩ := hasFlag_offset
  exact {
    version := by
      change (if number < 0 then 1 else 0 : UInt8) ≤ 1
      split <;> decide
    signed := fun _ => hasOffsets
    dataOffset := hasOffset
    firstSampleFlags := noFirst
    duration := List.forall_mem_singleton.mpr noDuration
    size := List.forall_mem_singleton.mpr noSize
    flags := List.forall_mem_singleton.mpr hasFlags
    compositionTimeOffset := List.forall_mem_singleton.mpr hasOffsets
    signedRange := fun one => List.forall_mem_singleton.mpr fun offset found => by
      cases found
      by_cases negative : number < 0
      · exact FromWord.le_of_negative negative
      · rw [if_neg negative] at one
        exact absurd one (by decide : ¬(0 : UInt8) = 1)
    unsignedRange := fun _ => List.forall_mem_singleton.mpr fun offset found => by
      cases found
      exact word.le_max
    firstSampleFlagsValid := rfl
    flagsValid := List.forall_mem_singleton.mpr flagsValid }

theorem fragmentTrun_valid (dataOffset : Int32) {flags : TrunSampleFlag} {offset : Option Int64}
    (flagsValid : flags.validate = .ok ())
    (words : ∀ number, offset = some number → FromWord number) :
    Trun.Valid (fragmentTrun dataOffset flags offset) := by
  unfold fragmentTrun
  cases kept : keptOffset offset with
  | none =>
      rw [offsetVersion_of_dropped kept]
      exact plainTrun_valid flagsValid
  | some number =>
      rw [offsetVersion_of_kept kept]
      exact offsetTrun_valid flagsValid (words number (eq_of_kept kept))

/-! ## One-sample fragments -/

/-- What a fragment of one sample says, apart from its data offset. -/
structure Fragment where
  sequenceNumber : UInt32
  trackId : UInt32
  baseMediaDecodeTime : UInt64
  duration : UInt32
  size : UInt32
  flags : TrunSampleFlag
  compositionTimeOffset : Option Int64
  flagsValid : flags.validate = .ok ()
  words : ∀ number, compositionTimeOffset = some number → FromWord number

namespace Fragment

def mfhd (fragment : Fragment) : Mfhd := .new fragment.sequenceNumber

def tfhd (fragment : Fragment) : Tfhd :=
  fragmentTfhd fragment.trackId fragment.duration fragment.size

def tfdt (fragment : Fragment) : Tfdt := .new fragment.baseMediaDecodeTime

def trun (fragment : Fragment) (dataOffset : Int32) : Trun :=
  fragmentTrun dataOffset fragment.flags fragment.compositionTimeOffset

def traf (fragment : Fragment) (dataOffset : Int32) : Traf DynBox :=
  .ofRun fragment.tfhd fragment.tfdt (fragment.trun dataOffset)

def moof (fragment : Fragment) (dataOffset : Int32) : Moof DynBox :=
  .new fragment.mfhd [fragment.traf dataOffset]

def trunPayload (fragment : Fragment) (dataOffset : Int32) : Bytes :=
  (fragment.trun dataOffset).header.bytes ++ (fragment.trun dataOffset).body

def trafPayload (fragment : Fragment) (dataOffset : Int32) : Bytes :=
  frame Tfhd.name fragment.tfhd.payload ++
    (frame Tfdt.name fragment.tfdt.payload ++ frame Trun.name (fragment.trunPayload dataOffset))

def payload (fragment : Fragment) (dataOffset : Int32) : Bytes :=
  frame Mfhd.name fragment.mfhd.payload ++ frame Traf.name (fragment.trafPayload dataOffset)

variable (fragment : Fragment) (dataOffset : Int32)

theorem small_flags : (fragment.trun dataOffset).header.flags.toNat < 2 ^ 24 := by
  change (if _ then (0xC01 : UInt32) else 0x401).toNat < 2 ^ 24
  split <;> decide

theorem trun_valid : Trun.Valid (fragment.trun dataOffset) :=
  fragmentTrun_valid dataOffset fragment.flagsValid fragment.words

theorem written : Written (fragment.moof dataOffset) (fragment.payload dataOffset) := by
  have mfhdWritten : Written fragment.mfhd fragment.mfhd.payload :=
    Mfhd.written rfl (by change (0 : UInt32).toNat < 2 ^ 24; decide)
  have tfhdWritten : Written fragment.tfhd fragment.tfhd.payload :=
    Tfhd.written (fragmentTfhd_valid _ _ _)
      (by change (0x020018 : UInt32).toNat < 2 ^ 24; decide)
  have tfdtWritten := Tfdt.written (Tfdt.new_valid fragment.baseMediaDecodeTime)
  have trunWritten :=
    Trun.written (fragment.trun_valid dataOffset) (fragment.small_flags dataOffset)
  exact Moof.written_single mfhdWritten (Traf.written_ofRun tfhdWritten tfdtWritten trunWritten)

/-- The size does not depend on the data offset that is filled in later. -/
theorem size_eq (other : Int32) :
    BoxType.size (fragment.moof dataOffset) = BoxType.size (fragment.moof other) := rfl

theorem length_trunPayload : (fragment.trunPayload dataOffset).length ≤ 20 := by
  have sample := Trun.length_offsetBytes (offsetVersion fragment.compositionTimeOffset)
  unfold trunPayload trun fragmentTrun Trun.body Trun.sampleBytes
  cases keptOffset fragment.compositionTimeOffset <;>
    simp [sample, Trun.length_flagsBytes]

theorem length_tfdtPayload : fragment.tfdt.payload.length ≤ 12 := by
  rw [Tfdt.payload, List.length_append, FullBoxHeader.length_bytes, Tfdt.length_timeBytes]
  split <;> decide

theorem length_tfhdPayload : fragment.tfhd.payload.length = 16 := by
  rw [Tfhd.payload, List.length_append, FullBoxHeader.length_bytes]
  rfl

theorem length_mfhdPayload : fragment.mfhd.payload.length = 8 := by
  rw [Mfhd.payload, List.length_append, FullBoxHeader.length_bytes, length_beU32]

theorem length_trafPayload : (fragment.trafPayload dataOffset).length ≤ 96 := by
  have trunLength := fragment.length_trunPayload dataOffset
  have tfdtLength := fragment.length_tfdtPayload
  have tfhdLength := fragment.length_tfhdPayload
  have trunSize := boxSize_le (fragment.trunPayload dataOffset).length
  have tfdtSize := boxSize_le fragment.tfdt.payload.length
  have tfhdSize := boxSize_le fragment.tfhd.payload.length
  rw [trafPayload, List.length_append, List.length_append, length_frame, length_frame,
    length_frame]
  omega

theorem length_payload : (fragment.payload dataOffset).length ≤ 136 := by
  have trafLength := fragment.length_trafPayload dataOffset
  have mfhdLength := fragment.length_mfhdPayload
  have trafSize := boxSize_le (fragment.trafPayload dataOffset).length
  have mfhdSize := boxSize_le fragment.mfhd.payload.length
  rw [payload, List.length_append, length_frame, length_frame]
  omega

/-- The fragment is read back, nested three deep. -/
theorem reads (checks : OverflowChecks) (depth : Nat) :
    Reads (DynBox.demuxWithin checks (depth + 3)) (frame Moof.name (fragment.payload dataOffset))
      (.moof (fragment.moof dataOffset)) := by
  have trunLength := fragment.length_trunPayload dataOffset
  have tfdtLength := fragment.length_tfdtPayload
  have tfhdLength := fragment.length_tfhdPayload
  have trafLength := fragment.length_trafPayload dataOffset
  have mfhdLength := fragment.length_mfhdPayload
  have mfhdRead : Reads (Mfhd.read ⟨Mfhd.name⟩) fragment.mfhd.payload fragment.mfhd :=
    Mfhd.read_reads (by change (0 : UInt32).toNat < 2 ^ 24; decide)
  have tfhdRead : Reads (Tfhd.read ⟨Tfhd.name⟩) fragment.tfhd.payload fragment.tfhd :=
    Tfhd.read_reads (fragmentTfhd_valid _ _ _)
      (by change (0x020018 : UInt32).toNat < 2 ^ 24; decide)
  have tfdtRead : Reads (Tfdt.read ⟨Tfdt.name⟩) fragment.tfdt.payload fragment.tfdt :=
    Tfdt.read_reads (Tfdt.new_valid _)
  have trunRead : Reads (Trun.read .unlimited ⟨Trun.name⟩) (fragment.trunPayload dataOffset)
      (fragment.trun dataOffset) := by
    apply Trun.read_reads (fragment.trun_valid dataOffset) (fragment.small_flags dataOffset)
    · change 1 < 2 ^ 32
      decide
    · intro sample member number kept
      rw [List.mem_singleton.mp member] at kept
      change Trun.Representable (offsetVersion fragment.compositionTimeOffset) number
      rw [offsetVersion_of_kept kept]
      exact (fragment.words number (eq_of_kept kept)).representable
  have trafRead := DynBox.reads_ofRun checks depth tfhdRead tfdtRead trunRead (by omega)
  exact DynBox.reads_single checks depth mfhdRead trafRead (by omega)

/-! ### The data offset -/

/-- The offset that the transmuxer fills in. -/
def filledOffset : Int32 := Int32.ofNat (BoxType.size (fragment.moof 0)) + 8

/-- The fragment as it is written. -/
def bytes : Bytes := frame Moof.name (fragment.payload fragment.filledOffset)

/-- The offset points past the fragment and the eight bytes of the next header. -/
theorem toInt_filledOffset :
    fragment.filledOffset.toInt = fragment.bytes.length + 8 := by
  have bound := fragment.length_payload fragment.filledOffset
  have size := boxSize_le (fragment.payload fragment.filledOffset).length
  have measured : BoxType.size (fragment.moof 0) =
      (frame Moof.name (fragment.payload fragment.filledOffset)).length :=
    (fragment.size_eq 0 fragment.filledOffset).trans (fragment.written fragment.filledOffset).size
  rw [length_frame] at measured
  rw [bytes, length_frame]
  have filled : fragment.filledOffset =
      Int32.ofNat (boxSize (fragment.payload fragment.filledOffset).length) + 8 :=
    congrArg (fun size => Int32.ofNat size + 8) measured
  generalize boxSize (fragment.payload fragment.filledOffset).length = total at *
  have eight : (8 : Int32).toInt = 8 := by decide
  rw [filled, Int32.toInt_add, Int32.toInt_ofNat_of_lt (by omega), eight]
  exact Int.bmod_eq_of_le (by omega) (by omega)

/-- The fragment as `demux` reads it, wherever it stands. -/
theorem bytes_reads (checks : OverflowChecks) :
    Reads (DynBox.demux checks) fragment.bytes (.moof (fragment.moof fragment.filledOffset)) := by
  apply DynBox.demux_reads fun depth => fragment.reads fragment.filledOffset checks depth
  rw [length_frame]
  unfold boxSize
  split <;> omega

/-- A player sees the sample as it was before the optimization. -/
theorem effectiveSamples_traf :
    (fragment.traf dataOffset).effectiveSamples =
      [⟨some fragment.duration, some fragment.size, some fragment.flags,
        fragment.compositionTimeOffset.getD 0⟩] := by
  have offset : (keptOffset fragment.compositionTimeOffset).getD 0 =
      fragment.compositionTimeOffset.getD 0 := by
    unfold keptOffset
    split
    · rename_i zero
      rw [zero]
      rfl
    · rfl
  change [(⟨some fragment.duration, some fragment.size, some fragment.flags,
    (keptOffset fragment.compositionTimeOffset).getD 0⟩ : EffectiveSample)] = _
  rw [offset]

end Fragment

end ScuffleVideo.Transmux
