import ScuffleVideo.Mp4.TrackRun

/-!
# The plain boxes of a movie fragment

The boxes below `moof` that hold no further boxes, and the media data box that
follows it.  For the boxes that every fragment carries, what `validate` accepts
has the size it announces and reads back as it was written.
-/

namespace ScuffleVideo.Mp4

open Wire Wire.Reader

/-! ## Movie fragment header -/

structure Mfhd where
  header : FullBoxHeader
  sequenceNumber : UInt32
  deriving DecidableEq, Repr

namespace Mfhd

def name : FourCC := .ofChars 'm' 'f' 'h' 'd'

def new (sequenceNumber : UInt32) : Mfhd := ⟨.new name 0 0, sequenceNumber⟩

def read (header : BoxHeader) : Reader IoFault Mfhd := do
  let header ← FullBoxHeader.demux header
  let sequenceNumber ← readU32
  return ⟨header, sequenceNumber⟩

def primitiveSize (mfhd : Mfhd) : Nat := mfhd.header.size + 4

def primitiveMux (mfhd : Mfhd) : Except IoFault Bytes := do
  let header ← mfhd.header.mux
  return header ++ beU32 mfhd.sequenceNumber

def validate (mfhd : Mfhd) : Except IoFault Unit := do
  refuse (mfhd.header.version != 0) "mfhd box version must be 0"
  refuse (mfhd.header.flags != 0) "mfhd box flags must be 0"

instance : BoxType Mfhd where
  name := name
  demux _ header data := (read header).parse data
  primitiveSize := primitiveSize
  primitiveMux := primitiveMux
  validate := validate

@[simp]
theorem boxName : BoxType.name Mfhd = name := rfl

def payload (mfhd : Mfhd) : Bytes := mfhd.header.bytes ++ beU32 mfhd.sequenceNumber

theorem written {mfhd : Mfhd} (valid : mfhd.validate = .ok ())
    (small : mfhd.header.flags.toNat < 2 ^ 24) : Written mfhd mfhd.payload where
  valid := valid
  written := by
    change primitiveMux mfhd = _
    rw [primitiveMux, FullBoxHeader.mux_eq_ok small]
    rfl
  sized := by
    rw [payload, List.length_append, FullBoxHeader.length_bytes, length_beU32]
    rfl

theorem read_reads {mfhd : Mfhd} (small : mfhd.header.flags.toNat < 2 ^ 24) :
    Reads (read mfhd.header.header) mfhd.payload mfhd := by
  apply (FullBoxHeader.demux_reads small).bind
  apply (Reads.readU32 mfhd.sequenceNumber).finish
  exact Reads.pure mfhd

instance : ExactSize Mfhd where
  exact _ _ valid written :=
    (Mfhd.written valid (FullBoxHeader.small_of_headed written)).exact written

instance (header : BoxHeader) : Returns (read header) := Returns.bind

instance : DemuxReturns Mfhd := ⟨fun _ _ _ _ failed => Returns.parse failed⟩

end Mfhd

/-! ## Track fragment header -/

structure Tfhd where
  header : FullBoxHeader
  trackId : UInt32
  baseDataOffset : Option UInt64
  sampleDescriptionIndex : Option UInt32
  defaultSampleDuration : Option UInt32
  defaultSampleSize : Option UInt32
  defaultSampleFlags : Option TrunSampleFlag
  deriving DecidableEq, Repr

namespace Tfhd

def name : FourCC := .ofChars 't' 'f' 'h' 'd'

def baseDataOffsetFlag : UInt32 := 0x000001
def defaultBaseIsMoofFlag : UInt32 := 0x020000
def defaultSampleDurationFlag : UInt32 := 0x000008
def defaultSampleFlagsFlag : UInt32 := 0x000020
def defaultSampleSizeFlag : UInt32 := 0x000010
def sampleDescriptionIndexFlag : UInt32 := 0x000002

def new (trackId : UInt32) (baseDataOffset : Option UInt64)
    (sampleDescriptionIndex defaultSampleDuration defaultSampleSize : Option UInt32)
    (defaultSampleFlags : Option TrunSampleFlag) : Tfhd :=
  let flags :=
    flagIf baseDataOffset.isSome baseDataOffsetFlag |||
      flagIf sampleDescriptionIndex.isSome sampleDescriptionIndexFlag |||
      flagIf defaultSampleDuration.isSome defaultSampleDurationFlag |||
      flagIf defaultSampleSize.isSome defaultSampleSizeFlag |||
      flagIf defaultSampleFlags.isSome defaultSampleFlagsFlag ||| defaultBaseIsMoofFlag
  ⟨.new name 0 flags, trackId, baseDataOffset, sampleDescriptionIndex, defaultSampleDuration,
    defaultSampleSize, defaultSampleFlags⟩

def read (header : BoxHeader) : Reader IoFault Tfhd := do
  let header ← FullBoxHeader.demux header
  let trackId ← readU32
  let baseDataOffset ← optionally (hasFlag header.flags baseDataOffsetFlag) readU64
  let sampleDescriptionIndex ←
    optionally (hasFlag header.flags sampleDescriptionIndexFlag) readU32
  let defaultSampleDuration ← optionally (hasFlag header.flags defaultSampleDurationFlag) readU32
  let defaultSampleSize ← optionally (hasFlag header.flags defaultSampleSizeFlag) readU32
  let defaultSampleFlags ←
    optionally (hasFlag header.flags defaultSampleFlagsFlag) Trun.readFlags
  return ⟨header, trackId, baseDataOffset, sampleDescriptionIndex, defaultSampleDuration,
    defaultSampleSize, defaultSampleFlags⟩

def primitiveSize (tfhd : Tfhd) : Nat :=
  tfhd.header.size + 4 + (if tfhd.baseDataOffset.isSome then 8 else 0) +
    (if tfhd.sampleDescriptionIndex.isSome then 4 else 0) +
    (if tfhd.defaultSampleDuration.isSome then 4 else 0) +
    (if tfhd.defaultSampleSize.isSome then 4 else 0) +
    (if tfhd.defaultSampleFlags.isSome then 4 else 0)

/-- Everything after the full header. -/
def body (tfhd : Tfhd) : Bytes :=
  beU32 tfhd.trackId ++ optional beU64 tfhd.baseDataOffset ++
    optional beU32 tfhd.sampleDescriptionIndex ++ optional beU32 tfhd.defaultSampleDuration ++
    optional beU32 tfhd.defaultSampleSize ++ optional Trun.flagsBytes tfhd.defaultSampleFlags

def primitiveMux (tfhd : Tfhd) : Except IoFault Bytes := do
  let header ← tfhd.header.mux
  return header ++ tfhd.body

/-- One of the five presence checks, whose messages differ only in the field. -/
def checkField {α : Type} (tfhd : Tfhd) (mask : UInt32) (value : Option α) (field : String) :
    Except IoFault Unit :=
  checkFlag (hasFlag tfhd.header.flags mask) value.isNone value.isSome
    ("tfhd " ++ field ++ " flag is set but " ++ field ++ " is not present")
    ("tfhd " ++ field ++ " flag is not set but " ++ field ++ " is present")

def validate (tfhd : Tfhd) : Except IoFault Unit := do
  refuse (tfhd.header.version != 0) "tfhd version must be 0"
  tfhd.checkField baseDataOffsetFlag tfhd.baseDataOffset "base_data_offset"
  tfhd.checkField sampleDescriptionIndexFlag tfhd.sampleDescriptionIndex
    "sample_description_index"
  tfhd.checkField defaultSampleDurationFlag tfhd.defaultSampleDuration "default_sample_duration"
  tfhd.checkField defaultSampleSizeFlag tfhd.defaultSampleSize "default_sample_size"
  tfhd.checkField defaultSampleFlagsFlag tfhd.defaultSampleFlags "default_sample_flags"
  Trun.validateFlags tfhd.defaultSampleFlags

instance : BoxType Tfhd where
  name := name
  demux _ header data := (read header).parse data
  primitiveSize := primitiveSize
  primitiveMux := primitiveMux
  validate := validate

@[simp]
theorem boxName : BoxType.name Tfhd = name := rfl

def payload (tfhd : Tfhd) : Bytes := tfhd.header.bytes ++ tfhd.body

theorem written {tfhd : Tfhd} (valid : tfhd.validate = .ok ())
    (small : tfhd.header.flags.toNat < 2 ^ 24) : Written tfhd tfhd.payload where
  valid := valid
  written := by
    change primitiveMux tfhd = _
    rw [primitiveMux, FullBoxHeader.mux_eq_ok small]
    rfl
  sized := by
    change primitiveSize tfhd = _
    unfold payload body primitiveSize FullBoxHeader.size
    rw [List.length_append, List.length_append, List.length_append, List.length_append,
      List.length_append, List.length_append, FullBoxHeader.length_bytes, length_beU32,
      length_optional length_beU64, length_optional length_beU32, length_optional length_beU32,
      length_optional length_beU32, length_optional Trun.length_flagsBytes]
    omega

/-- A header that `validate` accepts: its flags say exactly which fields are present,
and the default flags fit their bits. -/
structure Valid (tfhd : Tfhd) : Prop where
  version : tfhd.header.version = 0
  baseDataOffset : hasFlag tfhd.header.flags baseDataOffsetFlag = tfhd.baseDataOffset.isSome
  sampleDescriptionIndex :
    hasFlag tfhd.header.flags sampleDescriptionIndexFlag = tfhd.sampleDescriptionIndex.isSome
  defaultSampleDuration :
    hasFlag tfhd.header.flags defaultSampleDurationFlag = tfhd.defaultSampleDuration.isSome
  defaultSampleSize :
    hasFlag tfhd.header.flags defaultSampleSizeFlag = tfhd.defaultSampleSize.isSome
  defaultSampleFlags :
    hasFlag tfhd.header.flags defaultSampleFlagsFlag = tfhd.defaultSampleFlags.isSome
  flagsValid : Trun.validateFlags tfhd.defaultSampleFlags = .ok ()

theorem validate_eq_ok {tfhd : Tfhd} : tfhd.validate = .ok () ↔ Valid tfhd := by
  unfold validate checkField
  simp only [andThen_eq_ok, refuse_eq_ok, checkFlag_option, bne_eq_false_iff_eq]
  constructor
  · rintro ⟨version, baseDataOffset, sampleDescriptionIndex, defaultSampleDuration,
      defaultSampleSize, defaultSampleFlags, flagsValid⟩
    exact {
      version, baseDataOffset, sampleDescriptionIndex, defaultSampleDuration, defaultSampleSize,
      defaultSampleFlags, flagsValid }
  · intro valid
    exact ⟨valid.version, valid.baseDataOffset, valid.sampleDescriptionIndex,
      valid.defaultSampleDuration, valid.defaultSampleSize, valid.defaultSampleFlags,
      valid.flagsValid⟩

theorem read_reads {tfhd : Tfhd} (accepted : tfhd.validate = .ok ())
    (small : tfhd.header.flags.toNat < 2 ^ 24) :
    Reads (read tfhd.header.header) tfhd.payload tfhd := by
  have valid := validate_eq_ok.mp accepted
  unfold payload body
  simp only [List.append_assoc]
  apply (FullBoxHeader.demux_reads small).bind
  apply (Reads.readU32 tfhd.trackId).bind
  apply (Reads.optionally valid.baseDataOffset fun offset _ => Reads.readU64 offset).bind
  apply (Reads.optionally valid.sampleDescriptionIndex fun index _ => Reads.readU32 index).bind
  apply (Reads.optionally valid.defaultSampleDuration fun time _ => Reads.readU32 time).bind
  apply (Reads.optionally valid.defaultSampleSize fun bytes _ => Reads.readU32 bytes).bind
  apply (Reads.optionally valid.defaultSampleFlags
    (Trun.readFlags_reads_of_valid valid.flagsValid)).finish
  exact Reads.pure tfhd

instance : ExactSize Tfhd where
  exact _ _ valid written :=
    (Tfhd.written valid (FullBoxHeader.small_of_headed written)).exact written

instance (header : BoxHeader) : Returns (read header) := Returns.bind

instance : DemuxReturns Tfhd := ⟨fun _ _ _ _ failed => Returns.parse failed⟩

end Tfhd

/-! ## Base media decode time -/

structure Tfdt where
  header : FullBoxHeader
  baseMediaDecodeTime : UInt64
  deriving DecidableEq, Repr

namespace Tfdt

def name : FourCC := .ofChars 't' 'f' 'd' 't'

def new (baseMediaDecodeTime : UInt64) : Tfdt :=
  let version := if u32Max < baseMediaDecodeTime.toNat then 1 else 0
  ⟨.new name version 0, baseMediaDecodeTime⟩

def readTime (version : UInt8) : Reader IoFault UInt64 :=
  if version = 1 then readU64 else do return (← readU32).toUInt64

def read (header : BoxHeader) : Reader IoFault Tfdt := do
  let header ← FullBoxHeader.demux header
  let baseMediaDecodeTime ← readTime header.version
  return ⟨header, baseMediaDecodeTime⟩

def primitiveSize (tfdt : Tfdt) : Nat :=
  tfdt.header.size + if tfdt.header.version = 1 then 8 else 4

def timeBytes (version : UInt8) (time : UInt64) : Bytes :=
  if version = 1 then beU64 time else beU32 time.toUInt32

def primitiveMux (tfdt : Tfdt) : Except IoFault Bytes := do
  let header ← tfdt.header.mux
  return header ++ timeBytes tfdt.header.version tfdt.baseMediaDecodeTime

def validate (tfdt : Tfdt) : Except IoFault Unit := do
  refuse (1 < tfdt.header.version) "tfdt version must be 0 or 1"
  refuse (tfdt.header.flags != 0) "tfdt flags must be 0"
  refuse (tfdt.header.version == 0 && decide (u32Max < tfdt.baseMediaDecodeTime.toNat))
    "tfdt base_data_offset must be less than 2^32"

instance : BoxType Tfdt where
  name := name
  demux _ header data := (read header).parse data
  primitiveSize := primitiveSize
  primitiveMux := primitiveMux
  validate := validate

@[simp]
theorem boxName : BoxType.name Tfdt = name := rfl

def payload (tfdt : Tfdt) : Bytes :=
  tfdt.header.bytes ++ timeBytes tfdt.header.version tfdt.baseMediaDecodeTime

theorem length_timeBytes (version : UInt8) (time : UInt64) :
    (timeBytes version time).length = if version = 1 then 8 else 4 := by
  unfold timeBytes
  split
  · exact length_beU64 time
  · exact length_beU32 _

theorem validate_eq_ok {tfdt : Tfdt} :
    tfdt.validate = .ok () ↔ tfdt.header.version ≤ 1 ∧ tfdt.header.flags = 0 ∧
      (tfdt.header.version = 0 → tfdt.baseMediaDecodeTime.toNat ≤ u32Max) := by
  unfold validate
  simp only [andThen_eq_ok, refuse_eq_ok, decide_eq_false_iff_not, UInt8.not_lt,
    bne_eq_false_iff_eq, Bool.and_eq_false_imp, beq_iff_eq, Nat.not_lt]

theorem new_valid (time : UInt64) : (new time).validate = .ok () := by
  rw [validate_eq_ok, new, FullBoxHeader.new]
  split
  · exact ⟨(by decide : (1 : UInt8) ≤ 1), rfl,
      fun impossible => absurd impossible (by decide : ¬(1 : UInt8) = 0)⟩
  · rename_i short
    exact ⟨(by decide : (0 : UInt8) ≤ 1), rfl, fun _ => Nat.le_of_not_lt short⟩

theorem small_flags {tfdt : Tfdt} (valid : tfdt.validate = .ok ()) :
    tfdt.header.flags.toNat < 2 ^ 24 := by
  rw [(validate_eq_ok.mp valid).2.1]
  decide

theorem written {tfdt : Tfdt} (valid : tfdt.validate = .ok ()) : Written tfdt tfdt.payload where
  valid := valid
  written := by
    change primitiveMux tfdt = _
    rw [primitiveMux, FullBoxHeader.mux_eq_ok (small_flags valid)]
    rfl
  sized := by
    rw [payload, List.length_append, FullBoxHeader.length_bytes, length_timeBytes]
    rfl

/-- A time is read as it was written if the version has room for it. -/
theorem readTime_reads {version : UInt8} {time : UInt64}
    (room : version ≠ 1 → time.toNat ≤ u32Max) :
    Reads (readTime version) (timeBytes version time) time := by
  unfold readTime timeBytes
  split
  · exact Reads.readU64 time
  · rename_i short
    have fits : time.toUInt32.toUInt64 = time := by
      have small := room short
      unfold u32Max at small
      rw [← UInt64.toNat_inj, UInt32.toNat_toUInt64, UInt64.toNat_toUInt32]
      exact Nat.mod_eq_of_lt (by omega)
    have field := (Reads.readU32 (ε := IoFault) time.toUInt32).map UInt32.toUInt64
    rwa [fits] at field

theorem version_eq_zero {version : UInt8} (supported : version ≤ 1) (short : version ≠ 1) :
    version = 0 := by
  rw [← UInt8.toNat_inj, UInt8.toNat_zero]
  rw [ne_eq, ← UInt8.toNat_inj, UInt8.toNat_one] at short
  rw [UInt8.le_iff_toNat_le, UInt8.toNat_one] at supported
  omega

theorem read_reads {tfdt : Tfdt} (valid : tfdt.validate = .ok ()) :
    Reads (read tfdt.header.header) tfdt.payload tfdt := by
  obtain ⟨supported, _, bounded⟩ := validate_eq_ok.mp valid
  apply (FullBoxHeader.demux_reads (small_flags valid)).bind
  apply (readTime_reads fun short => bounded (version_eq_zero supported short)).finish
  exact Reads.pure tfdt

instance : ExactSize Tfdt := ⟨fun _ _ valid written => (Tfdt.written valid).exact written⟩

instance (version : UInt8) : Returns (readTime version) := Returns.ite

instance (header : BoxHeader) : Returns (read header) := Returns.bind

instance : DemuxReturns Tfdt := ⟨fun _ _ _ _ failed => Returns.parse failed⟩

end Tfdt

/-! ## Media data -/

structure Mdat where
  header : BoxHeader
  data : List Bytes
  deriving DecidableEq, Repr

namespace Mdat

def name : FourCC := .ofChars 'm' 'd' 'a' 't'

def new (data : List Bytes) : Mdat := ⟨⟨name⟩, data⟩

instance : BoxType Mdat where
  name := name
  demux _ header data := .ok ⟨header, [data]⟩
  primitiveSize mdat := (mdat.data.map List.length).sum
  primitiveMux mdat := .ok mdat.data.flatten
  validate _ := .ok ()

@[simp]
theorem boxName : BoxType.name Mdat = name := rfl

theorem written (mdat : Mdat) : Written mdat mdat.data.flatten where
  valid := rfl
  written := rfl
  sized := List.length_flatten.symm

instance : ExactSize Mdat := ⟨fun mdat _ _ written => mdat.written.exact written⟩

instance : DemuxReturns Mdat := ⟨nofun⟩

end Mdat

/-! ## Sample groups -/

structure SbgpEntry where
  sampleCount : UInt32
  groupDescriptionIndex : UInt32
  deriving DecidableEq, Repr

structure Sbgp where
  header : FullBoxHeader
  groupingType : Option UInt32
  entries : List SbgpEntry
  deriving DecidableEq, Repr

namespace Sbgp

def name : FourCC := .ofChars 's' 'b' 'g' 'p'

def readEntry : Reader IoFault SbgpEntry := do
  let sampleCount ← readU32
  let groupDescriptionIndex ← readU32
  return ⟨sampleCount, groupDescriptionIndex⟩

def read (memory : Memory) (header : BoxHeader) : Reader IoFault Sbgp := do
  let full ← FullBoxHeader.demux header
  let groupingType ← optionally (full.version == 1) readU32
  let entryCount ← readU32
  allocate memory header.boxType entryCount.toNat
  let entries ← repeated readEntry entryCount.toNat
  return ⟨full, groupingType, entries⟩

/-- Counts the grouping type whether or not it is present. -/
def primitiveSize (sbgp : Sbgp) : Nat := sbgp.header.size + 4 + 4 + sbgp.entries.length * 8

def entryBytes (entry : SbgpEntry) : Bytes :=
  beU32 entry.sampleCount ++ beU32 entry.groupDescriptionIndex

def primitiveMux (sbgp : Sbgp) : Except IoFault Bytes := do
  let header ← sbgp.header.mux
  return header ++ optional beU32 sbgp.groupingType ++
    beU32 (UInt32.ofNat sbgp.entries.length) ++ sbgp.entries.flatMap entryBytes

def validate (sbgp : Sbgp) : Except IoFault Unit := do
  refuse (1 < sbgp.header.version) "sbgp box version must be 0 or 1"
  refuse (sbgp.header.flags != 0) "sbgp box flags must be 0"
  refuse (sbgp.header.version == 1 && sbgp.groupingType.isNone)
    "sbgp box grouping_type must be present when version is 1"
  refuse (sbgp.header.version == 0 && sbgp.groupingType.isSome)
    "sbgp box grouping_type must not be present when version is 0"

instance : BoxType Sbgp where
  name := name
  demux build header data := (read build.memory header).parse data
  primitiveSize := primitiveSize
  primitiveMux := primitiveMux
  validate := validate

theorem length_entryBytes (entry : SbgpEntry) : (entryBytes entry).length = 8 := by
  rw [entryBytes, List.length_append, length_beU32, length_beU32]

/-- A box without grouping type is four bytes shorter than its measured size. -/
theorem length_primitiveMux {sbgp : Sbgp} {payload : Bytes}
    (written : sbgp.primitiveMux = .ok payload) :
    payload.length + (if sbgp.groupingType.isSome then 0 else 4) = sbgp.primitiveSize := by
  obtain ⟨header, headerWritten, rest⟩ := sequence_eq_ok_iff.mp written
  cases rest
  have entries : (sbgp.entries.flatMap entryBytes).length = sbgp.entries.length * 8 := by
    simp only [List.length_flatMap, length_entryBytes, List.map_const', List.sum_replicate_nat]
  simp only [List.length_append, entries, length_optional length_beU32, length_beU32, primitiveSize,
    FullBoxHeader.length_mux headerWritten]
  split <;> omega

instance : Returns readEntry := Returns.bind

end Sbgp

/-! ## Subsamples -/

structure SubSampleEntry where
  subsampleSize : UInt32
  subsamplePriority : UInt8
  discardable : UInt8
  codecSpecificParameters : UInt32
  deriving DecidableEq, Repr

structure SubsEntry where
  sampleDelta : UInt32
  subsamples : List SubSampleEntry
  deriving DecidableEq, Repr

structure Subs where
  header : FullBoxHeader
  entries : List SubsEntry
  deriving DecidableEq, Repr

namespace Subs

def name : FourCC := .ofChars 's' 'u' 'b' 's'

def readSubsampleSize (version : UInt8) : Reader IoFault UInt32 :=
  if version = 1 then readU32 else do return (← readU16).toUInt32

def readSubsample (version : UInt8) : Reader IoFault SubSampleEntry := do
  let subsampleSize ← readSubsampleSize version
  let subsamplePriority ← readU8
  let discardable ← readU8
  let codecSpecificParameters ← readU32
  return ⟨subsampleSize, subsamplePriority, discardable, codecSpecificParameters⟩

def readEntry (version : UInt8) : Reader IoFault SubsEntry := do
  let sampleDelta ← readU32
  let subsampleCount ← readU16
  let subsamples ← repeated (readSubsample version) subsampleCount.toNat
  return ⟨sampleDelta, subsamples⟩

def read (memory : Memory) (header : BoxHeader) : Reader IoFault Subs := do
  let full ← FullBoxHeader.demux header
  let entryCount ← readU32
  allocate memory header.boxType entryCount.toNat
  let entries ← repeated (readEntry full.version) entryCount.toNat
  return ⟨full, entries⟩

def entrySize (version : UInt8) (entry : SubsEntry) : Nat :=
  4 + 2 + entry.subsamples.length * if version = 1 then 4 + 1 + 1 + 4 else 2 + 1 + 1 + 4

def primitiveSize (subs : Subs) : Nat :=
  subs.header.size + 4 + (subs.entries.map (entrySize subs.header.version)).sum

def subsampleBytes (version : UInt8) (subsample : SubSampleEntry) : Bytes :=
  (if version = 1 then beU32 subsample.subsampleSize
    else toBytesBE 2 subsample.subsampleSize.toUInt16.toNat) ++
    [subsample.subsamplePriority, subsample.discardable] ++
    beU32 subsample.codecSpecificParameters

def entryBytes (version : UInt8) (entry : SubsEntry) : Bytes :=
  beU32 entry.sampleDelta ++ toBytesBE 2 (UInt16.ofNat entry.subsamples.length).toNat ++
    entry.subsamples.flatMap (subsampleBytes version)

def primitiveMux (subs : Subs) : Except IoFault Bytes := do
  let header ← subs.header.mux
  return header ++ beU32 (UInt32.ofNat subs.entries.length) ++
    subs.entries.flatMap (entryBytes subs.header.version)

def validate (subs : Subs) : Except IoFault Unit := do
  refuse (1 < subs.header.version) "subs version must be 0 or 1"
  refuse (subs.header.version == 0 &&
      subs.entries.any fun entry => entry.subsamples.any (0xFFFF < ·.subsampleSize))
    "subs subsample_size must be less than 2^16"

instance : BoxType Subs where
  name := name
  demux build header data := (read build.memory header).parse data
  primitiveSize := primitiveSize
  primitiveMux := primitiveMux
  validate := validate

theorem length_subsampleBytes (version : UInt8) (subsample : SubSampleEntry) :
    (subsampleBytes version subsample).length = if version = 1 then 10 else 8 := by
  unfold subsampleBytes
  split <;> simp only [List.length_append, length_beU32, length_toBytesBE, List.length_cons,
    List.length_nil]

theorem length_entryBytes (version : UInt8) (entry : SubsEntry) :
    (entryBytes version entry).length = entrySize version entry := by
  have subsamples : (entry.subsamples.flatMap (subsampleBytes version)).length =
      entry.subsamples.length * if version = 1 then 10 else 8 := by
    simp only [List.length_flatMap, length_subsampleBytes, List.map_const', List.sum_replicate_nat]
  unfold entryBytes entrySize
  rw [List.length_append, List.length_append, length_beU32, length_toBytesBE, subsamples]

instance : ExactSize Subs where
  exact subs payload _ written := by
    obtain ⟨header, headerWritten, rest⟩ := sequence_eq_ok_iff.mp written
    cases rest
    change _ = subs.primitiveSize
    have entries : (subs.entries.flatMap (entryBytes subs.header.version)).length =
        (subs.entries.map (entrySize subs.header.version)).sum := by
      rw [List.length_flatMap]
      congr 1
      exact List.map_congr_left fun entry _ => length_entryBytes _ entry
    rw [List.length_append, List.length_append, entries, length_beU32, primitiveSize,
      FullBoxHeader.length_mux headerWritten]

instance (version : UInt8) : Returns (readSubsampleSize version) := Returns.ite

instance (version : UInt8) : Returns (readSubsample version) := Returns.bind

instance (version : UInt8) : Returns (readEntry version) := Returns.bind

end Subs

end ScuffleVideo.Mp4
