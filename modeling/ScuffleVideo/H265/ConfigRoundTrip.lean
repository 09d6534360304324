import ScuffleVideo.H264.ConfigRoundTrip
import ScuffleVideo.H265.Config
import ScuffleVideo.Wire.BitDecoding

/-!
# HEVC configuration records read and written again

As for AVC, a record that was read fits the fields of its writer: every count, length and small field
came out of a field of the same width.  So it is written, in as many bytes as it measures,
and reading these gives it back.
-/

namespace ScuffleVideo.H265

open Wire BitReader

/-! ## Arrays of parameter sets -/

/-- The fields of the array can hold what it says. -/
structure NaluArray.Readable (array : NaluArray) : Prop where
  code : array.nalUnitType.code.toNat < 2 ^ 6
  canonical : NaluType.ofCode array.nalUnitType.code = array.nalUnitType
  count : array.nalus.length < 2 ^ 16
  lengths : ∀ nalu ∈ array.nalus, nalu.length < 2 ^ 16

theorem NaluType.code_ofCode (value : UInt8) : (NaluType.ofCode value).code = value := by
  unfold ofCode
  split_ifs <;> simp_all [code]

theorem readNalu_lt {state last : BitState} {buffer nalu : Bytes} {position stop : Nat}
    (done : readNalu state buffer position = .ok ((nalu, last), stop)) : nalu.length < 2 ^ 16 := by
  obtain ⟨length, _, _, _, more⟩ := sequence_ok_iff.mp done
  rw [length_of_readExact more]
  exact length.toNat_lt

theorem readArray_readable {state last : BitState} {buffer : Bytes} {position stop : Nat}
    {array : NaluArray} (done : readArray state buffer position = .ok ((array, last), stop)) :
    array.Readable := by
  obtain ⟨completeness, _, _, _, more⟩ := sequence_ok_iff.mp done
  obtain ⟨_, _, _, _, more⟩ := sequence_ok_iff.mp more
  obtain ⟨code, _, _, coded, more⟩ := sequence_ok_iff.mp more
  obtain ⟨count, _, _, _, more⟩ := sequence_ok_iff.mp more
  obtain ⟨nalus, _, _, counted, same⟩ := sequence_ok_iff.mp more
  cases same
  have small := toUInt8_lt (readBits_lt (by decide) coded)
  refine ⟨?_, ?_, ?_, forall_mem_repeatedly readNalu_lt counted⟩
  · rw [NaluType.code_ofCode]
    exact small
  · rw [NaluType.code_ofCode]
  · dsimp only
    rw [length_of_repeatedly counted]
    exact count.toNat_lt

theorem bytesBits_flatMap {α : Type} (encode : α → Bytes) (values : List α) :
    bytesBits (values.flatMap encode) = values.flatMap fun value => bytesBits (encode value) := by
  induction values with
  | nil => rfl
  | cons value values ih => rw [List.flatMap_cons, List.flatMap_cons, bytesBits_append, ih]

theorem readNalu_decodes {nalu : Bytes} (short : nalu.length < 2 ^ 16) :
    Decodes readNalu (bytesBits (naluBytes nalu)) nalu := by
  have length : (UInt16.ofNat nalu.length).toNat = nalu.length := UInt16.toNat_ofNat_of_lt' short
  rw [naluBytes, bytesBits_append]
  refine (Decodes.readU16 _).bind ?_
  rw [length]
  exact Decodes.readExact nalu

theorem readArray_decodes {array : NaluArray} (readable : array.Readable) :
    Decodes readArray (bytesBits (arrayBytes array)) array := by
  have count : (UInt16.ofNat array.nalus.length).toNat = array.nalus.length :=
    UInt16.toNat_ofNat_of_lt' readable.count
  rw [bytesBits_arrayBytes readable.code]
  refine (Decodes.readBit array.arrayCompleteness).bind ?_
  refine Decodes.seekBits (length_toBits 1 0) fun _ => ?_
  refine (Decodes.readBits (by decide) readable.code).bind ?_
  refine (Decodes.readU16 _).bind ?_
  rw [count, bytesBits_flatMap, toUInt8_ofNat, readable.canonical]
  refine (Decodes.repeatedly fun nalu member => readNalu_decodes (readable.lengths nalu member)).finish ?_
  exact Decodes.pure array

/-! ## The record -/

namespace HEVCDecoderConfigurationRecord

/-- The fields of the record can hold what it says. -/
structure Readable (record : HEVCDecoderConfigurationRecord) : Prop where
  fits : record.Fits
  count : record.arrays.length < 2 ^ 8
  arrays : ∀ array ∈ record.arrays, array.Readable

theorem toUInt16_ofNat (number : UInt16) : (UInt64.ofNat number.toNat).toUInt16 = number := by
  rw [← UInt16.toNat_inj, UInt64.toNat_toUInt16, UInt64.toNat_ofNat']
  have small := number.toNat_lt
  omega

theorem readU48LE_lt {state last : BitState} {buffer : Bytes} {position stop : Nat} {number : UInt64}
    (done : readU48LE state buffer position = .ok ((number, last), stop)) :
    number.toNat < 2 ^ 48 := by
  obtain ⟨bytes, _, _, read, same⟩ := sequence_ok_iff.mp done
  cases same
  have small := ofBytesBE_lt bytes.reverse
  rw [List.length_reverse, length_of_readExact read] at small
  rw [UInt64.toNat_ofNat', ofBytesLE]
  omega

theorem readRecord_readable {state last : BitState} {buffer : Bytes} {position stop : Nat}
    {record : HEVCDecoderConfigurationRecord}
    (done : readRecord state buffer position = .ok ((record, last), stop)) : record.Readable := by
  obtain ⟨_, _, _, _, more⟩ := sequence_ok_iff.mp done
  obtain ⟨space, _, _, spaceRead, more⟩ := sequence_ok_iff.mp more
  obtain ⟨_, _, _, _, more⟩ := sequence_ok_iff.mp more
  obtain ⟨idc, _, _, idcRead, more⟩ := sequence_ok_iff.mp more
  obtain ⟨_, _, _, _, more⟩ := sequence_ok_iff.mp more
  obtain ⟨flags, _, _, flagsRead, more⟩ := sequence_ok_iff.mp more
  obtain ⟨_, _, _, _, more⟩ := sequence_ok_iff.mp more
  obtain ⟨_, _, _, _, more⟩ := sequence_ok_iff.mp more
  obtain ⟨spatial, _, _, spatialRead, more⟩ := sequence_ok_iff.mp more
  obtain ⟨_, _, _, _, more⟩ := sequence_ok_iff.mp more
  obtain ⟨parallelism, _, _, parallelismRead, more⟩ := sequence_ok_iff.mp more
  obtain ⟨_, _, _, _, more⟩ := sequence_ok_iff.mp more
  obtain ⟨chroma, _, _, chromaRead, more⟩ := sequence_ok_iff.mp more
  obtain ⟨_, _, _, _, more⟩ := sequence_ok_iff.mp more
  obtain ⟨luma, _, _, lumaRead, more⟩ := sequence_ok_iff.mp more
  obtain ⟨_, _, _, _, more⟩ := sequence_ok_iff.mp more
  obtain ⟨depth, _, _, depthRead, more⟩ := sequence_ok_iff.mp more
  obtain ⟨_, _, _, _, more⟩ := sequence_ok_iff.mp more
  obtain ⟨rate, _, _, rateRead, more⟩ := sequence_ok_iff.mp more
  obtain ⟨layers, _, _, layersRead, more⟩ := sequence_ok_iff.mp more
  obtain ⟨_, _, _, _, more⟩ := sequence_ok_iff.mp more
  obtain ⟨length, _, _, lengthRead, more⟩ := sequence_ok_iff.mp more
  obtain ⟨count, _, _, _, more⟩ := sequence_ok_iff.mp more
  obtain ⟨arrays, _, _, arraysRead, same⟩ := sequence_ok_iff.mp more
  cases same
  have spatialSmall := readBits_lt (by decide) spatialRead
  have readable := forall_mem_repeatedly readArray_readable arraysRead
  refine ⟨⟨toUInt8_lt (readBits_lt (by decide) spaceRead),
    toUInt8_lt (readBits_lt (by decide) idcRead), readU48LE_lt flagsRead, ?_,
    toUInt8_lt (readBits_lt (by decide) parallelismRead),
    toUInt8_lt (readBits_lt (by decide) chromaRead), toUInt8_lt (readBits_lt (by decide) lumaRead),
    toUInt8_lt (readBits_lt (by decide) depthRead), toUInt8_lt (readBits_lt (by decide) rateRead),
    toUInt8_lt (readBits_lt (by decide) layersRead),
    toUInt8_lt (readBits_lt (by decide) lengthRead),
    fun array member => (readable array member).code⟩, ?_, readable⟩
  · dsimp only
    rw [UInt64.toNat_toUInt16]
    exact Nat.lt_of_le_of_lt (Nat.mod_le _ _) spatialSmall
  · dsimp only
    rw [length_of_repeatedly arraysRead]
    exact count.toNat_lt

theorem readRecord_decodes {record : HEVCDecoderConfigurationRecord} (readable : record.Readable) :
    Decodes readRecord record.layout record := by
  have fits := readable.fits
  have count : (UInt8.ofNat record.arrays.length).toNat = record.arrays.length :=
    UInt8.toNat_ofNat_of_lt' readable.count
  refine (Decodes.readU8 record.configurationVersion).bind ?_
  refine (Decodes.readBits (by decide) fits.generalProfileSpace).bind ?_
  refine (Decodes.readBit record.generalTierFlag).bind ?_
  refine (Decodes.readBits (by decide) fits.generalProfileIdc).bind ?_
  refine (Decodes.readU32LE record.generalProfileCompatibilityFlags).bind ?_
  refine (Decodes.readU48LE fits.generalConstraintIndicatorFlags).bind ?_
  refine (Decodes.readU8 record.generalLevelIdc).bind ?_
  refine Decodes.seekBits (length_toBits 4 _) fun _ => ?_
  refine (Decodes.readBits (by decide) fits.minSpatialSegmentationIdc).bind ?_
  refine Decodes.seekBits (length_toBits 6 _) fun _ => ?_
  refine (Decodes.readBits (by decide) fits.parallelismType).bind ?_
  refine Decodes.seekBits (length_toBits 6 _) fun _ => ?_
  refine (Decodes.readBits (by decide) fits.chromaFormatIdc).bind ?_
  refine Decodes.seekBits (length_toBits 5 _) fun _ => ?_
  refine (Decodes.readBits (by decide) fits.bitDepthLumaMinus8).bind ?_
  refine Decodes.seekBits (length_toBits 5 _) fun _ => ?_
  refine (Decodes.readBits (by decide) fits.bitDepthChromaMinus8).bind ?_
  refine (Decodes.readU16 record.avgFrameRate).bind ?_
  refine (Decodes.readBits (by decide) fits.constantFrameRate).bind ?_
  refine (Decodes.readBits (by decide) fits.numTemporalLayers).bind ?_
  refine (Decodes.readBit record.temporalIdNested).bind ?_
  refine (Decodes.readBits (by decide) fits.lengthSizeMinusOne).bind ?_
  refine (Decodes.readU8 (UInt8.ofNat record.arrays.length)).bind ?_
  rw [count, bytesBits_flatMap]
  refine (Decodes.repeatedly fun array member =>
    readArray_decodes (readable.arrays array member)).finish ?_
  simp only [toUInt8_ofNat, toUInt16_ofNat]
  exact Decodes.pure record

theorem demux_bytes {record : HEVCDecoderConfigurationRecord} (readable : record.Readable) :
    demux.parse record.bytes = .ok record := by
  have whole : bytesBits record.bytes = record.layout ++ [] := by
    rw [bytesBits_bytes readable.fits, List.append_nil]
  obtain ⟨state, stop, done, _⟩ := (readRecord_decodes readable).run whole
  unfold Reader.parse demux
  rw [Reader.bind_ok done]
  rfl

/-- The record is written in as many bytes as it measures, and reading them gives it back. -/
def Survives (record : HEVCDecoderConfigurationRecord) : Prop :=
  ∃ bytes, record.mux = .ok bytes ∧ bytes.length = record.size ∧ demux.parse bytes = .ok record

theorem survives_of_demux {data : Bytes} {record : HEVCDecoderConfigurationRecord}
    (read : demux.parse data = .ok record) : record.Survives := by
  obtain ⟨stop, read⟩ := Reader.ok_of_parse read
  obtain ⟨⟨_, last⟩, middle, fields, same⟩ := Reader.bind_eq_ok_iff.mp read
  cases same
  have readable := readRecord_readable fields
  exact ⟨record.bytes, mux_eq_ok_iff.mpr ⟨readable.fits, rfl⟩, record.length_bytes,
    demux_bytes readable⟩

end HEVCDecoderConfigurationRecord

/-! ## Both codecs -/

/-- Whatever bytes a configuration record was read from, writing it succeeds and reading
what was written gives the record back. -/
theorem configurations_survive (data : Bytes) :
    (∀ record, H264.AVCDecoderConfigurationRecord.demux.parse data = .ok record →
      record.Survives) ∧
    ∀ record, HEVCDecoderConfigurationRecord.demux.parse data = .ok record → record.Survives :=
  ⟨fun _ read => H264.AVCDecoderConfigurationRecord.survives_of_demux read,
    fun _ read => HEVCDecoderConfigurationRecord.survives_of_demux read⟩

/-- A high profile record with one parameter set of each kind and its extended configuration. -/
def highRecord : H264.AVCDecoderConfigurationRecord :=
  ⟨1, 100, 0, 31, 3, [[0x67, 0x64]], [[0x68]], some ⟨1, 0, 0, [[0x6d]]⟩⟩

/-- A main profile record with one parameter set. -/
def mainRecord : HEVCDecoderConfigurationRecord :=
  ⟨1, 0, false, 1, 0x60, 0x90, 93, 0, 0, 1, 0, 0, 0, 0, 1, true, 3, [⟨true, .sps, [[0x42, 0x01]]⟩]⟩

theorem highRecord_mainRecord_survive : highRecord.Survives ∧ mainRecord.Survives :=
  ⟨(configurations_survive highRecord.bytes).1 highRecord (by decide +kernel),
    (configurations_survive mainRecord.bytes).2 mainRecord (by decide +kernel)⟩

end ScuffleVideo.H265
