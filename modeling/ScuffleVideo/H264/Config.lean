import ScuffleVideo.Wire.BitWriter

/-!
# AVC decoder configuration

The record that introduces an AVC stream: profile and level, then the parameter
sets, each behind its length.  It is read byte by byte and written bit by bit.
Counts and small fields that do not fit their bits are refused by the writer;
the length of a parameter set is cut to 16 bits without a check.
-/

namespace ScuffleVideo.H264

open Wire Wire.Reader

structure AvccExtendedConfig where
  chromaFormat : UInt8
  bitDepthLumaMinus8 : UInt8
  bitDepthChromaMinus8 : UInt8
  sequenceParameterSetExt : List Bytes
  deriving DecidableEq, Repr

structure AVCDecoderConfigurationRecord where
  configurationVersion : UInt8
  profileIndication : UInt8
  profileCompatibility : UInt8
  levelIndication : UInt8
  lengthSizeMinusOne : UInt8
  sps : List Bytes
  pps : List Bytes
  extendedConfig : Option AvccExtendedConfig
  deriving DecidableEq, Repr

/-! ## Parameter sets -/

/-- A parameter set behind its length. -/
def readSet : Reader IoFault Bytes := do
  let length ← readU16
  extractBytes length.toNat

def setBytes (set : Bytes) : Bytes := beU16 (UInt16.ofNat set.length) ++ set

def setsSize (sets : List Bytes) : Nat := (sets.map fun set => 2 + set.length).sum

def writeSets : List Bytes → BitWriting
  | [] => pure ()
  | set :: sets => do
      BitWriting.writeAll (beU16 (UInt16.ofNat set.length))
      BitWriting.writeAll set
      writeSets sets

theorem length_setBytes (sets : List Bytes) : (sets.flatMap setBytes).length = setsSize sets := by
  rw [List.length_flatMap, setsSize]
  congr 1
  refine List.map_congr_left fun set _ => ?_
  rw [setBytes, List.length_append, length_beU16]

open BitWriting in
theorem writeSets_emits (sets : List Bytes) :
    Emits (writeSets sets) True (bytesBits (sets.flatMap setBytes)) := by
  induction sets with
  | nil => exact Emits.skip
  | cons set sets ih =>
      apply ((Emits.writeAll (beU16 (UInt16.ofNat set.length))).seq
        ((Emits.writeAll set).seq ih)).congr
      · exact ⟨fun _ => trivial, fun _ => ⟨trivial, trivial, trivial⟩⟩
      · intro _
        rw [List.flatMap_cons, bytesBits_append, setBytes, bytesBits_append, List.append_assoc]

instance : Returns readSet := Returns.bind

theorem readSet_reads {set : Bytes} (short : set.length < 2 ^ 16) :
    Reads readSet (setBytes set) set := by
  apply (Reads.readU16 _).bind
  exact Reads.extractBytes (UInt16.toNat_ofNat_of_lt' short).symm

/-! ## The record -/

namespace AVCDecoderConfigurationRecord

/-- The profiles that have no extended configuration. -/
def isPlainProfile (profile : UInt8) : Bool := profile == 66 || profile == 77 || profile == 88

def readExtended : Reader IoFault AvccExtendedConfig := do
  let chromaFormat ← readU8
  let bitDepthLumaMinus8 ← readU8
  let bitDepthChromaMinus8 ← readU8
  let count ← readU8
  let sequenceParameterSetExt ← repeated readSet count.toNat
  return ⟨chromaFormat &&& 0b00000011, bitDepthLumaMinus8 &&& 0b00000111,
    bitDepthChromaMinus8 &&& 0b00000111, sequenceParameterSetExt⟩

/-- A record of a profile that should have an extended configuration may end
without one. -/
def demux : Reader IoFault AVCDecoderConfigurationRecord := do
  let configurationVersion ← readU8
  let profileIndication ← readU8
  let profileCompatibility ← readU8
  let levelIndication ← readU8
  let lengthSizeMinusOne ← readU8
  let spsCount ← readU8
  let sps ← repeated readSet (spsCount &&& 0b00011111).toNat
  let ppsCount ← readU8
  let pps ← repeated readSet ppsCount.toNat
  let left ← remaining
  let extendedConfig ←
    optionally (!isPlainProfile profileIndication && decide (0 < left)) readExtended
  return ⟨configurationVersion, profileIndication, profileCompatibility, levelIndication,
    lengthSizeMinusOne &&& 0b00000011, sps, pps, extendedConfig⟩

def size (record : AVCDecoderConfigurationRecord) : Nat :=
  1 + 1 + 1 + 1 + 1 + 1 + setsSize record.sps + 1 + setsSize record.pps +
    match record.extendedConfig with
    | some config => 1 + 1 + 1 + 1 + setsSize config.sequenceParameterSetExt
    | none => 0

open BitWriting in
def writeExtended : Option AvccExtendedConfig → BitWriting
  | none => pure ()
  | some config => do
      writeBits 0b111111 6
      writeBits config.chromaFormat.toUInt64 2
      writeBits 0b11111 5
      writeBits config.bitDepthLumaMinus8.toUInt64 3
      writeBits 0b11111 5
      writeBits config.bitDepthChromaMinus8.toUInt64 3
      writeBits (UInt64.ofNat config.sequenceParameterSetExt.length) 8
      writeSets config.sequenceParameterSetExt

open BitWriting in
def write (record : AVCDecoderConfigurationRecord) : BitWriting := do
  writeAll [record.configurationVersion]
  writeAll [record.profileIndication]
  writeAll [record.profileCompatibility]
  writeAll [record.levelIndication]
  writeBits 0b111111 6
  writeBits record.lengthSizeMinusOne.toUInt64 2
  writeBits 0b111 3
  writeBits (UInt64.ofNat record.sps.length) 5
  writeSets record.sps
  writeBits (UInt64.ofNat record.pps.length) 8
  writeSets record.pps
  writeExtended record.extendedConfig

def mux (record : AVCDecoderConfigurationRecord) : Except IoFault Bytes :=
  BitWriting.finish record.write

instance : Returns readExtended := Returns.bind

instance : Returns demux := Returns.bind

/-! ## What is written -/

/-- A count as the writer sees it. -/
def count (sets : List Bytes) : Nat := (UInt64.ofNat sets.length).toNat

def extendedBytes (config : AvccExtendedConfig) : Bytes :=
  [UInt8.ofNat (0b111111 * 2 ^ 2 + config.chromaFormat.toNat),
    UInt8.ofNat (0b11111 * 2 ^ 3 + config.bitDepthLumaMinus8.toNat),
    UInt8.ofNat (0b11111 * 2 ^ 3 + config.bitDepthChromaMinus8.toNat),
    UInt8.ofNat (count config.sequenceParameterSetExt)] ++
    config.sequenceParameterSetExt.flatMap setBytes

def ExtendedFits (config : AvccExtendedConfig) : Prop :=
  config.chromaFormat.toNat < 2 ^ 2 ∧ config.bitDepthLumaMinus8.toNat < 2 ^ 3 ∧
    config.bitDepthChromaMinus8.toNat < 2 ^ 3 ∧ count config.sequenceParameterSetExt < 2 ^ 8

/-- The bytes of a record whose small fields fit. -/
def bytes (record : AVCDecoderConfigurationRecord) : Bytes :=
  [record.configurationVersion, record.profileIndication, record.profileCompatibility,
    record.levelIndication, UInt8.ofNat (0b111111 * 2 ^ 2 + record.lengthSizeMinusOne.toNat),
    UInt8.ofNat (0b111 * 2 ^ 5 + count record.sps)] ++ (record.sps.flatMap setBytes ++
    ([UInt8.ofNat (count record.pps)] ++ (record.pps.flatMap setBytes ++
      optional extendedBytes record.extendedConfig)))

/-- The fields that the writer holds to their bits. -/
def Fits (record : AVCDecoderConfigurationRecord) : Prop :=
  record.lengthSizeMinusOne.toNat < 2 ^ 2 ∧ count record.sps < 2 ^ 5 ∧ count record.pps < 2 ^ 8 ∧
    ∀ config ∈ record.extendedConfig, ExtendedFits config

theorem length_bytes (record : AVCDecoderConfigurationRecord) :
    record.bytes.length = record.size := by
  unfold bytes size
  simp only [List.length_append, List.length_cons, List.length_nil, length_setBytes]
  cases record.extendedConfig with
  | none => simp only [optional_none, List.length_nil]; omega
  | some config =>
      simp only [optional_some, extendedBytes, List.length_append, List.length_cons,
        List.length_nil, length_setBytes]
      omega

open BitWriting in
theorem writeExtended_emits (config : Option AvccExtendedConfig) :
    Emits (writeExtended config) (∀ inner ∈ config, ExtendedFits inner)
      (bytesBits (optional extendedBytes config)) := by
  cases config with
  | none => exact Emits.skip.congr ⟨fun _ => nofun, fun _ => trivial⟩ fun _ => rfl
  | some config =>
      apply ((Emits.writeBits 0b111111 (show 6 ≤ 64 by decide)).seq
        ((Emits.writeBits config.chromaFormat.toUInt64 (show 2 ≤ 64 by decide)).seq
        ((Emits.writeBits 0b11111 (show 5 ≤ 64 by decide)).seq
        ((Emits.writeBits config.bitDepthLumaMinus8.toUInt64 (show 3 ≤ 64 by decide)).seq
        ((Emits.writeBits 0b11111 (show 5 ≤ 64 by decide)).seq
        ((Emits.writeBits config.bitDepthChromaMinus8.toUInt64 (show 3 ≤ 64 by decide)).seq
        ((Emits.writeBits (UInt64.ofNat config.sequenceParameterSetExt.length)
          (show 8 ≤ 64 by decide)).seq
        (writeSets_emits config.sequenceParameterSetExt)))))))).congr
      · simp only [UInt8.toNat_toUInt64, Option.mem_def, Option.some.injEq, forall_eq',
          ExtendedFits, count]
        exact ⟨fun ⟨_, chroma, _, luma, _, depth, sets, _⟩ => ⟨chroma, luma, depth, sets⟩,
          fun ⟨chroma, luma, depth, sets⟩ =>
            ⟨by decide, chroma, by decide, luma, by decide, depth, sets, trivial⟩⟩
      · rintro ⟨_, chroma, _, luma, _, depth, sets, _⟩
        rw [UInt8.toNat_toUInt64] at chroma luma depth
        simp only [UInt8.toNat_toUInt64]
        rw [optional_some, extendedBytes, List.cons_append, List.cons_append, List.cons_append,
          List.cons_append, List.nil_append,
          bytesBits_pair (show 6 + 2 = 8 from rfl) (by decide) chroma,
          bytesBits_pair (show 5 + 3 = 8 from rfl) (by decide) luma,
          bytesBits_pair (show 5 + 3 = 8 from rfl) (by decide) depth,
          bytesBits_octet (show count config.sequenceParameterSetExt < 2 ^ 8 from sets)]
        rfl

/-- The layout of a record in bits. -/
theorem bytesBits_bytes {record : AVCDecoderConfigurationRecord}
    (length : record.lengthSizeMinusOne.toNat < 2 ^ 2) (sps : count record.sps < 2 ^ 5)
    (pps : count record.pps < 2 ^ 8) :
    bytesBits record.bytes = byteBits record.configurationVersion ++
      (byteBits record.profileIndication ++ (byteBits record.profileCompatibility ++
      (byteBits record.levelIndication ++ (toBits 6 0b111111 ++
      (toBits 2 record.lengthSizeMinusOne.toNat ++ (toBits 3 0b111 ++
      (toBits 5 (count record.sps) ++ (bytesBits (record.sps.flatMap setBytes) ++
      (toBits 8 (count record.pps) ++ (bytesBits (record.pps.flatMap setBytes) ++
        bytesBits (optional extendedBytes record.extendedConfig))))))))))) := by
  rw [bytes, List.cons_append, List.cons_append, List.cons_append, List.cons_append,
    List.cons_append, List.cons_append, List.nil_append, bytesBits_cons, bytesBits_cons,
    bytesBits_cons, bytesBits_cons, bytesBits_pair (show 6 + 2 = 8 from rfl) (by decide) length,
    bytesBits_pair (show 3 + 5 = 8 from rfl) (by decide) sps, bytesBits_append,
    List.singleton_append, bytesBits_octet pps, bytesBits_append]

open BitWriting in
theorem write_emits (record : AVCDecoderConfigurationRecord) :
    Emits record.write record.Fits (bytesBits record.bytes) := by
  apply ((Emits.writeAll [record.configurationVersion]).seq
    ((Emits.writeAll [record.profileIndication]).seq
    ((Emits.writeAll [record.profileCompatibility]).seq
    ((Emits.writeAll [record.levelIndication]).seq
    ((Emits.writeBits 0b111111 (show 6 ≤ 64 by decide)).seq
    ((Emits.writeBits record.lengthSizeMinusOne.toUInt64 (show 2 ≤ 64 by decide)).seq
    ((Emits.writeBits 0b111 (show 3 ≤ 64 by decide)).seq
    ((Emits.writeBits (UInt64.ofNat record.sps.length) (show 5 ≤ 64 by decide)).seq
    ((writeSets_emits record.sps).seq
    ((Emits.writeBits (UInt64.ofNat record.pps.length) (show 8 ≤ 64 by decide)).seq
    ((writeSets_emits record.pps).seq
    (writeExtended_emits record.extendedConfig)))))))))))).congr
  · rw [UInt8.toNat_toUInt64]
    exact ⟨fun ⟨_, _, _, _, _, length, _, sps, _, pps, _, config⟩ => ⟨length, sps, pps, config⟩,
      fun ⟨length, sps, pps, config⟩ =>
        ⟨trivial, trivial, trivial, trivial, by decide, length, by decide, sps, trivial, pps,
          trivial, config⟩⟩
  · rintro ⟨_, _, _, _, _, length, _, sps, _, pps, _, _⟩
    rw [UInt8.toNat_toUInt64] at length
    rw [bytesBits_bytes length sps pps, UInt8.toNat_toUInt64]
    simp only [bytesBits_cons, bytesBits_nil, List.append_nil]
    rfl

/-- A record is written when its small fields fit, and then as its bytes. -/
theorem mux_eq_ok_iff {record : AVCDecoderConfigurationRecord} {result : Bytes} :
    record.mux = .ok result ↔ record.Fits ∧ result = record.bytes :=
  BitWriting.finish_eq_ok_iff record.write_emits

end AVCDecoderConfigurationRecord

end ScuffleVideo.H264
