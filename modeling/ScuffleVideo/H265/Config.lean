import ScuffleVideo.Wire.BitReader
import ScuffleVideo.Wire.BitWriter

/-!
# HEVC decoder configuration

The record that introduces an HEVC stream: profile, level and sampling format,
then arrays of parameter sets, each array of one type.  It is read and written
bit by bit.  Small fields that do not fit their bits are refused by the writer;
the number of arrays, the number of sets in an array and the length of a set are
cut to their fields without a check.
-/

namespace ScuffleVideo.H265

open Wire

inductive NaluType where
  | vps
  | pps
  | sps
  | unknown (value : UInt8)
  deriving DecidableEq, Repr

namespace NaluType

def ofCode (value : UInt8) : NaluType :=
  if value = 32 then .vps
  else if value = 33 then .sps
  else if value = 34 then .pps
  else .unknown value

def code : NaluType → UInt8
  | .vps => 32
  | .sps => 33
  | .pps => 34
  | .unknown value => value

end NaluType

structure NaluArray where
  arrayCompleteness : Bool
  nalUnitType : NaluType
  nalus : List Bytes
  deriving DecidableEq, Repr

structure HEVCDecoderConfigurationRecord where
  configurationVersion : UInt8
  generalProfileSpace : UInt8
  generalTierFlag : Bool
  generalProfileIdc : UInt8
  generalProfileCompatibilityFlags : UInt32
  generalConstraintIndicatorFlags : UInt64
  generalLevelIdc : UInt8
  minSpatialSegmentationIdc : UInt16
  parallelismType : UInt8
  chromaFormatIdc : UInt8
  bitDepthLumaMinus8 : UInt8
  bitDepthChromaMinus8 : UInt8
  avgFrameRate : UInt16
  constantFrameRate : UInt8
  numTemporalLayers : UInt8
  temporalIdNested : Bool
  lengthSizeMinusOne : UInt8
  arrays : List NaluArray
  deriving DecidableEq, Repr

/-! ## Parameter sets -/

open BitReader in
def readNalu : BitReader Bytes := do
  let length ← readU16
  readExact length.toNat

open BitReader in
def readArray : BitReader NaluArray := do
  let arrayCompleteness ← readBit
  let _ ← seekBits 1
  let code ← readBits 6
  let count ← readU16
  let nalus ← repeatedly readNalu count.toNat
  return ⟨arrayCompleteness, .ofCode code.toUInt8, nalus⟩

def naluBytes (nalu : Bytes) : Bytes := beU16 (UInt16.ofNat nalu.length) ++ nalu

def nalusSize (nalus : List Bytes) : Nat := (nalus.map fun nalu => 2 + nalu.length).sum

open BitWriting in
def writeNalus : List Bytes → BitWriting
  | [] => pure ()
  | nalu :: nalus => do
      writeAll (beU16 (UInt16.ofNat nalu.length))
      writeAll nalu
      writeNalus nalus

open BitWriting in
def writeArrays : List NaluArray → BitWriting
  | [] => pure ()
  | array :: arrays => do
      writeBit array.arrayCompleteness
      writeBits 0b0 1
      writeBits array.nalUnitType.code.toUInt64 6
      writeAll (beU16 (UInt16.ofNat array.nalus.length))
      writeNalus array.nalus
      writeArrays arrays

def arrayBytes (array : NaluArray) : Bytes :=
  [UInt8.ofNat (array.arrayCompleteness.toNat * 2 ^ 7 + array.nalUnitType.code.toNat)] ++
    (beU16 (UInt16.ofNat array.nalus.length) ++ array.nalus.flatMap naluBytes)

instance : BitReader.Returns readNalu := BitReader.Returns.bind

instance : BitReader.Returns readArray := BitReader.Returns.bind

theorem length_naluBytes (nalus : List Bytes) :
    (nalus.flatMap naluBytes).length = nalusSize nalus := by
  rw [List.length_flatMap, nalusSize]
  congr 1
  refine List.map_congr_left fun nalu _ => ?_
  rw [naluBytes, List.length_append, length_beU16]

/-- The layout of an array in bits. -/
theorem bytesBits_arrayBytes {array : NaluArray} (fits : array.nalUnitType.code.toNat < 2 ^ 6) :
    bytesBits (arrayBytes array) =
      [array.arrayCompleteness] ++ (toBits 1 0 ++ (toBits 6 array.nalUnitType.code.toNat ++
        (bytesBits (beU16 (UInt16.ofNat array.nalus.length)) ++
          bytesBits (array.nalus.flatMap naluBytes)))) := by
  rw [arrayBytes, List.singleton_append,
    bytesBits_pair (show 1 + 7 = 8 from rfl) (Bool.toNat_lt array.arrayCompleteness)
      (show array.nalUnitType.code.toNat < 2 ^ 7 by omega), toBits_one, bytesBits_append]
  have reserved := toBits_append 1 6 0 array.nalUnitType.code.toNat fits
  rw [Nat.zero_mul, Nat.zero_add] at reserved
  rw [← reserved, List.append_assoc]

open BitWriting in
theorem writeNalus_emits (nalus : List Bytes) :
    Emits (writeNalus nalus) True (bytesBits (nalus.flatMap naluBytes)) := by
  induction nalus with
  | nil => exact Emits.skip
  | cons nalu nalus ih =>
      apply ((Emits.writeAll (beU16 (UInt16.ofNat nalu.length))).seq
        ((Emits.writeAll nalu).seq ih)).congr
      · exact ⟨fun _ => trivial, fun _ => ⟨trivial, trivial, trivial⟩⟩
      · intro _
        rw [List.flatMap_cons, bytesBits_append, naluBytes, bytesBits_append, List.append_assoc]

open BitWriting in
theorem writeArrays_emits (arrays : List NaluArray) :
    Emits (writeArrays arrays) (∀ array ∈ arrays, array.nalUnitType.code.toNat < 2 ^ 6)
      (bytesBits (arrays.flatMap arrayBytes)) := by
  induction arrays with
  | nil => exact Emits.skip.congr ⟨fun _ => nofun, fun _ => trivial⟩ fun _ => rfl
  | cons array arrays ih =>
      apply ((Emits.writeBit array.arrayCompleteness).seq
        ((Emits.writeBits 0b0 (show 1 ≤ 64 by decide)).seq
        ((Emits.writeBits array.nalUnitType.code.toUInt64 (show 6 ≤ 64 by decide)).seq
        ((Emits.writeAll (beU16 (UInt16.ofNat array.nalus.length))).seq
        ((writeNalus_emits array.nalus).seq ih))))).congr
      · rw [List.forall_mem_cons, UInt8.toNat_toUInt64]
        exact ⟨fun ⟨_, _, code, _, _, rest⟩ => ⟨code, rest⟩,
          fun ⟨code, rest⟩ => ⟨trivial, by decide, code, trivial, trivial, rest⟩⟩
      · rintro ⟨_, _, code, _, _, _⟩
        rw [UInt8.toNat_toUInt64] at code
        rw [List.flatMap_cons, bytesBits_append, bytesBits_arrayBytes code, UInt8.toNat_toUInt64]
        simp only [List.append_assoc]
        rfl

/-! ## The record -/

namespace HEVCDecoderConfigurationRecord

open BitReader in
def readRecord : BitReader HEVCDecoderConfigurationRecord := do
  let configurationVersion ← readU8
  let generalProfileSpace ← readBits 2
  let generalTierFlag ← readBit
  let generalProfileIdc ← readBits 5
  let generalProfileCompatibilityFlags ← readU32LE
  let generalConstraintIndicatorFlags ← readU48LE
  let generalLevelIdc ← readU8
  let _ ← seekBits 4
  let minSpatialSegmentationIdc ← readBits 12
  let _ ← seekBits 6
  let parallelismType ← readBits 2
  let _ ← seekBits 6
  let chromaFormatIdc ← readBits 2
  let _ ← seekBits 5
  let bitDepthLumaMinus8 ← readBits 3
  let _ ← seekBits 5
  let bitDepthChromaMinus8 ← readBits 3
  let avgFrameRate ← readU16
  let constantFrameRate ← readBits 2
  let numTemporalLayers ← readBits 3
  let temporalIdNested ← readBit
  let lengthSizeMinusOne ← readBits 2
  let numOfArrays ← readU8
  let arrays ← repeatedly readArray numOfArrays.toNat
  return ⟨configurationVersion, generalProfileSpace.toUInt8, generalTierFlag,
    generalProfileIdc.toUInt8, generalProfileCompatibilityFlags, generalConstraintIndicatorFlags,
    generalLevelIdc, minSpatialSegmentationIdc.toUInt16, parallelismType.toUInt8,
    chromaFormatIdc.toUInt8, bitDepthLumaMinus8.toUInt8, bitDepthChromaMinus8.toUInt8, avgFrameRate,
    constantFrameRate.toUInt8, numTemporalLayers.toUInt8, temporalIdNested,
    lengthSizeMinusOne.toUInt8, arrays⟩

def demux : Reader IoFault HEVCDecoderConfigurationRecord := do
  let (record, _) ← BitReader.run readRecord
  return record

def size (record : HEVCDecoderConfigurationRecord) : Nat :=
  1 + 1 + 4 + 6 + 1 + 2 + 1 + 1 + 1 + 1 + 2 + 1 + 1 +
    (record.arrays.map fun array => 1 + 2 + nalusSize array.nalus).sum

open BitWriting in
def write (record : HEVCDecoderConfigurationRecord) : BitWriting := do
  writeAll [record.configurationVersion]
  writeBits record.generalProfileSpace.toUInt64 2
  writeBit record.generalTierFlag
  writeBits record.generalProfileIdc.toUInt64 5
  writeAll (toBytesLE 4 record.generalProfileCompatibilityFlags.toNat)
  writeU48LE record.generalConstraintIndicatorFlags
  writeAll [record.generalLevelIdc]
  writeBits 0b1111 4
  writeBits record.minSpatialSegmentationIdc.toUInt64 12
  writeBits 0b111111 6
  writeBits record.parallelismType.toUInt64 2
  writeBits 0b111111 6
  writeBits record.chromaFormatIdc.toUInt64 2
  writeBits 0b11111 5
  writeBits record.bitDepthLumaMinus8.toUInt64 3
  writeBits 0b11111 5
  writeBits record.bitDepthChromaMinus8.toUInt64 3
  writeAll (beU16 record.avgFrameRate)
  writeBits record.constantFrameRate.toUInt64 2
  writeBits record.numTemporalLayers.toUInt64 3
  writeBit record.temporalIdNested
  writeBits record.lengthSizeMinusOne.toUInt64 2
  writeAll [UInt8.ofNat record.arrays.length]
  writeArrays record.arrays

def mux (record : HEVCDecoderConfigurationRecord) : Except IoFault Bytes :=
  BitWriting.finish record.write

set_option synthInstance.maxSize 1000 in
instance : BitReader.Returns readRecord := BitReader.Returns.bind

instance : Reader.Returns demux := Reader.Returns.bind

/-! ## What is written -/

/-- The bytes of a record whose small fields fit. -/
def bytes (record : HEVCDecoderConfigurationRecord) : Bytes :=
  [record.configurationVersion,
    UInt8.ofNat (record.generalProfileSpace.toNat * 2 ^ 6 +
      (record.generalTierFlag.toNat * 2 ^ 5 + record.generalProfileIdc.toNat))] ++
  (toBytesLE 4 record.generalProfileCompatibilityFlags.toNat ++
  (toBytesLE 6 record.generalConstraintIndicatorFlags.toNat ++
  ([record.generalLevelIdc] ++
  (toBytesBE 2 (0b1111 * 2 ^ 12 + record.minSpatialSegmentationIdc.toNat) ++
  ([UInt8.ofNat (0b111111 * 2 ^ 2 + record.parallelismType.toNat),
    UInt8.ofNat (0b111111 * 2 ^ 2 + record.chromaFormatIdc.toNat),
    UInt8.ofNat (0b11111 * 2 ^ 3 + record.bitDepthLumaMinus8.toNat),
    UInt8.ofNat (0b11111 * 2 ^ 3 + record.bitDepthChromaMinus8.toNat)] ++
  (beU16 record.avgFrameRate ++
  ([UInt8.ofNat (record.constantFrameRate.toNat * 2 ^ 6 + (record.numTemporalLayers.toNat * 2 ^ 3 +
      (record.temporalIdNested.toNat * 2 ^ 2 + record.lengthSizeMinusOne.toNat))),
    UInt8.ofNat record.arrays.length] ++ record.arrays.flatMap arrayBytes)))))))

/-- The fields that the writer holds to their bits. -/
structure Fits (record : HEVCDecoderConfigurationRecord) : Prop where
  generalProfileSpace : record.generalProfileSpace.toNat < 2 ^ 2
  generalProfileIdc : record.generalProfileIdc.toNat < 2 ^ 5
  generalConstraintIndicatorFlags : record.generalConstraintIndicatorFlags.toNat < 2 ^ 48
  minSpatialSegmentationIdc : record.minSpatialSegmentationIdc.toNat < 2 ^ 12
  parallelismType : record.parallelismType.toNat < 2 ^ 2
  chromaFormatIdc : record.chromaFormatIdc.toNat < 2 ^ 2
  bitDepthLumaMinus8 : record.bitDepthLumaMinus8.toNat < 2 ^ 3
  bitDepthChromaMinus8 : record.bitDepthChromaMinus8.toNat < 2 ^ 3
  constantFrameRate : record.constantFrameRate.toNat < 2 ^ 2
  numTemporalLayers : record.numTemporalLayers.toNat < 2 ^ 3
  lengthSizeMinusOne : record.lengthSizeMinusOne.toNat < 2 ^ 2
  arrays : ∀ array ∈ record.arrays, array.nalUnitType.code.toNat < 2 ^ 6

theorem length_bytes (record : HEVCDecoderConfigurationRecord) :
    record.bytes.length = record.size := by
  have arrays : (record.arrays.flatMap arrayBytes).length =
      (record.arrays.map fun array => 1 + 2 + nalusSize array.nalus).sum := by
    rw [List.length_flatMap]
    congr 1
    refine List.map_congr_left fun array _ => ?_
    rw [arrayBytes, List.length_append, List.length_append, length_naluBytes, length_beU16,
      List.length_singleton]
    omega
  unfold bytes size
  simp only [List.length_append, List.length_cons, List.length_nil, length_toBytesLE,
    length_toBytesBE, length_beU16, arrays]
  omega

/-- The layout of a record in bits. -/
def layout (record : HEVCDecoderConfigurationRecord) : List Bool :=
  byteBits record.configurationVersion ++ (toBits 2 record.generalProfileSpace.toNat ++
  ([record.generalTierFlag] ++ (toBits 5 record.generalProfileIdc.toNat ++
  (bytesBits (toBytesLE 4 record.generalProfileCompatibilityFlags.toNat) ++
  (bytesBits (toBytesLE 6 record.generalConstraintIndicatorFlags.toNat) ++
  (byteBits record.generalLevelIdc ++ (toBits 4 0b1111 ++
  (toBits 12 record.minSpatialSegmentationIdc.toNat ++ (toBits 6 0b111111 ++
  (toBits 2 record.parallelismType.toNat ++ (toBits 6 0b111111 ++
  (toBits 2 record.chromaFormatIdc.toNat ++ (toBits 5 0b11111 ++
  (toBits 3 record.bitDepthLumaMinus8.toNat ++ (toBits 5 0b11111 ++
  (toBits 3 record.bitDepthChromaMinus8.toNat ++ (bytesBits (beU16 record.avgFrameRate) ++
  (toBits 2 record.constantFrameRate.toNat ++ (toBits 3 record.numTemporalLayers.toNat ++
  ([record.temporalIdNested] ++ (toBits 2 record.lengthSizeMinusOne.toNat ++
  (byteBits (UInt8.ofNat record.arrays.length) ++
    bytesBits (record.arrays.flatMap arrayBytes)))))))))))))))))))))))

theorem bytesBits_bytes {record : HEVCDecoderConfigurationRecord} (fits : record.Fits) :
    bytesBits record.bytes = record.layout := by
  have tier := Bool.toNat_lt record.generalTierFlag
  have nested := Bool.toNat_lt record.temporalIdNested
  have idc := fits.generalProfileIdc
  have layers := fits.numTemporalLayers
  have length := fits.lengthSizeMinusOne
  have profile : toBits 6 (record.generalTierFlag.toNat * 2 ^ 5 + record.generalProfileIdc.toNat) =
      [record.generalTierFlag] ++ toBits 5 record.generalProfileIdc.toNat := by
    rw [← toBits_one, toBits_append _ _ _ _ idc]
  have temporal : toBits 6 (record.numTemporalLayers.toNat * 2 ^ 3 +
      (record.temporalIdNested.toNat * 2 ^ 2 + record.lengthSizeMinusOne.toNat)) =
      toBits 3 record.numTemporalLayers.toNat ++ ([record.temporalIdNested] ++
        toBits 2 record.lengthSizeMinusOne.toNat) := by
    rw [← toBits_one, toBits_append _ _ _ _ length, toBits_append _ _ _ _ (by omega)]
  have spatial : bytesBits (toBytesBE 2 (0b1111 * 2 ^ 12 + record.minSpatialSegmentationIdc.toNat)) =
      toBits 4 0b1111 ++ toBits 12 record.minSpatialSegmentationIdc.toNat := by
    rw [bytesBits_toBytesBE, toBits_append _ _ _ _ fits.minSpatialSegmentationIdc]
  unfold bytes layout
  simp only [List.cons_append, List.nil_append]
  rw [bytesBits_cons, bytesBits_pair (show 2 + 6 = 8 from rfl) fits.generalProfileSpace (by omega),
    profile, bytesBits_append, bytesBits_append, bytesBits_cons, bytesBits_append, spatial,
    bytesBits_pair (show 6 + 2 = 8 from rfl) (by decide) fits.parallelismType,
    bytesBits_pair (show 6 + 2 = 8 from rfl) (by decide) fits.chromaFormatIdc,
    bytesBits_pair (show 5 + 3 = 8 from rfl) (by decide) fits.bitDepthLumaMinus8,
    bytesBits_pair (show 5 + 3 = 8 from rfl) (by decide) fits.bitDepthChromaMinus8,
    bytesBits_append,
    bytesBits_pair (show 2 + 6 = 8 from rfl) fits.constantFrameRate (by omega), temporal,
    bytesBits_cons]
  simp only [List.append_assoc, List.cons_append, List.nil_append]

open BitWriting in
theorem write_emits (record : HEVCDecoderConfigurationRecord) :
    Emits record.write record.Fits (bytesBits record.bytes) := by
  apply ((Emits.writeAll [record.configurationVersion]).seq
    ((Emits.writeBits record.generalProfileSpace.toUInt64 (show 2 ≤ 64 by decide)).seq
    ((Emits.writeBit record.generalTierFlag).seq
    ((Emits.writeBits record.generalProfileIdc.toUInt64 (show 5 ≤ 64 by decide)).seq
    ((Emits.writeAll (toBytesLE 4 record.generalProfileCompatibilityFlags.toNat)).seq
    ((Emits.writeU48LE record.generalConstraintIndicatorFlags).seq
    ((Emits.writeAll [record.generalLevelIdc]).seq
    ((Emits.writeBits 0b1111 (show 4 ≤ 64 by decide)).seq
    ((Emits.writeBits record.minSpatialSegmentationIdc.toUInt64 (show 12 ≤ 64 by decide)).seq
    ((Emits.writeBits 0b111111 (show 6 ≤ 64 by decide)).seq
    ((Emits.writeBits record.parallelismType.toUInt64 (show 2 ≤ 64 by decide)).seq
    ((Emits.writeBits 0b111111 (show 6 ≤ 64 by decide)).seq
    ((Emits.writeBits record.chromaFormatIdc.toUInt64 (show 2 ≤ 64 by decide)).seq
    ((Emits.writeBits 0b11111 (show 5 ≤ 64 by decide)).seq
    ((Emits.writeBits record.bitDepthLumaMinus8.toUInt64 (show 3 ≤ 64 by decide)).seq
    ((Emits.writeBits 0b11111 (show 5 ≤ 64 by decide)).seq
    ((Emits.writeBits record.bitDepthChromaMinus8.toUInt64 (show 3 ≤ 64 by decide)).seq
    ((Emits.writeAll (beU16 record.avgFrameRate)).seq
    ((Emits.writeBits record.constantFrameRate.toUInt64 (show 2 ≤ 64 by decide)).seq
    ((Emits.writeBits record.numTemporalLayers.toUInt64 (show 3 ≤ 64 by decide)).seq
    ((Emits.writeBit record.temporalIdNested).seq
    ((Emits.writeBits record.lengthSizeMinusOne.toUInt64 (show 2 ≤ 64 by decide)).seq
    ((Emits.writeAll [UInt8.ofNat record.arrays.length]).seq
    (writeArrays_emits record.arrays)))))))))))))))))))))))).congr
  · simp only [UInt8.toNat_toUInt64, UInt16.toNat_toUInt64]
    exact ⟨fun ⟨_, space, _, idc, _, flags, _, _, spatial, _, parallelism, _, chroma, _, luma, _,
        depth, _, rate, layers, _, length, _, arrays⟩ =>
          ⟨space, idc, flags, spatial, parallelism, chroma, luma, depth, rate, layers, length,
            arrays⟩,
      fun fits => ⟨trivial, fits.generalProfileSpace, trivial, fits.generalProfileIdc, trivial,
        fits.generalConstraintIndicatorFlags, trivial, by decide, fits.minSpatialSegmentationIdc,
        by decide, fits.parallelismType, by decide, fits.chromaFormatIdc, by decide,
        fits.bitDepthLumaMinus8, by decide, fits.bitDepthChromaMinus8, trivial,
        fits.constantFrameRate, fits.numTemporalLayers, trivial, fits.lengthSizeMinusOne, trivial,
        fits.arrays⟩⟩
  · rintro ⟨_, space, _, idc, _, flags, _, _, spatial, _, parallelism, _, chroma, _, luma, _, depth,
      _, rate, layers, _, length, _, arrays⟩
    simp only [UInt8.toNat_toUInt64, UInt16.toNat_toUInt64] at *
    rw [bytesBits_bytes ⟨space, idc, flags, spatial, parallelism, chroma, luma, depth, rate, layers,
      length, arrays⟩, layout]
    simp only [bytesBits_cons, bytesBits_nil, List.append_nil]
    rfl

/-- A record is written when its small fields fit, and then as its bytes. -/
theorem mux_eq_ok_iff {record : HEVCDecoderConfigurationRecord} {result : Bytes} :
    record.mux = .ok result ↔ record.Fits ∧ result = record.bytes :=
  BitWriting.finish_eq_ok_iff record.write_emits

end HEVCDecoderConfigurationRecord

end ScuffleVideo.H265
