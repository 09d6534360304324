import ScuffleVideo.H264.Config

/-!
# AVC configuration records read and written again

A record that was read fits the fields of its writer: every count, length and small field
came out of a field of the same width.  So it is written, and reading the bytes gives it
back.  The extended configuration is there exactly if bytes are left for it, so a record is
read at the end of its buffer.
-/

namespace ScuffleVideo.H264

open Wire Wire.Reader

/-! ## Parameter sets -/

theorem readSet_lt {buffer set : Bytes} {position stop : Nat}
    (done : readSet buffer position = .ok (set, stop)) : set.length < 2 ^ 16 := by
  obtain ⟨length, _, _, more⟩ := bind_eq_ok_iff.mp done
  have small := length.toNat_lt
  unfold extractBytes at more
  split at more
  · cases more
    exact Nat.two_pow_pos 16
  · unfold take at more
    split at more
    · cases more
      rw [List.length_take]
      omega
    · cases more

/-- Parameter sets whose number and lengths their fields can tell. -/
structure Countable (sets : List Bytes) (bound : Nat) : Prop where
  count : sets.length < bound
  lengths : ∀ set ∈ sets, set.length < 2 ^ 16

theorem Countable.reads {sets : List Bytes} {bound : Nat} (countable : Countable sets bound) :
    Reads (repeated readSet sets.length) (sets.flatMap setBytes) sets :=
  Reads.repeated fun set member => readSet_reads (countable.lengths set member)

theorem countable_of_repeated {buffer : Bytes} {position stop count bound : Nat}
    {sets : List Bytes} (few : count < bound)
    (done : repeated readSet count buffer position = .ok (sets, stop)) : Countable sets bound :=
  ⟨by rw [length_of_repeated done]; exact few, forall_mem_repeated readSet_lt done⟩

/-! ## Packed bytes -/

theorem and_lt (byte : UInt8) {mask : UInt8} {width : Nat} (small : mask.toNat < 2 ^ width) :
    (byte &&& mask).toNat < 2 ^ width := by
  rw [UInt8.toNat_and]
  exact Nat.and_lt_two_pow _ small

theorem low_two {field : UInt8} (small : field.toNat < 2 ^ 2) :
    UInt8.ofNat (0b111111 * 2 ^ 2 + field.toNat) &&& 0b00000011 = field := by
  have table : ∀ number : Fin 4,
      UInt8.ofNat (0b111111 * 2 ^ 2 + number.val) &&& 0b00000011 = UInt8.ofNat number.val := by decide
  rw [table ⟨field.toNat, small⟩, UInt8.ofNat_toNat]

theorem low_three {field : UInt8} (small : field.toNat < 2 ^ 3) :
    UInt8.ofNat (0b11111 * 2 ^ 3 + field.toNat) &&& 0b00000111 = field := by
  have table : ∀ number : Fin 8,
      UInt8.ofNat (0b11111 * 2 ^ 3 + number.val) &&& 0b00000111 = UInt8.ofNat number.val := by decide
  rw [table ⟨field.toNat, small⟩, UInt8.ofNat_toNat]

theorem low_five {count : Nat} (small : count < 2 ^ 5) :
    (UInt8.ofNat (0b111 * 2 ^ 5 + count) &&& 0b00011111).toNat = count := by
  have table : ∀ number : Fin 32,
      (UInt8.ofNat (0b111 * 2 ^ 5 + number.val) &&& 0b00011111).toNat = number.val := by decide
  exact table ⟨count, small⟩

/-! ## The record -/

namespace AVCDecoderConfigurationRecord

/-- The fields of an extended configuration can hold what it says. -/
structure ExtendedReadable (config : AvccExtendedConfig) : Prop where
  chromaFormat : config.chromaFormat.toNat < 2 ^ 2
  bitDepthLumaMinus8 : config.bitDepthLumaMinus8.toNat < 2 ^ 3
  bitDepthChromaMinus8 : config.bitDepthChromaMinus8.toNat < 2 ^ 3
  sets : Countable config.sequenceParameterSetExt (2 ^ 8)

/-- The fields of the record can hold what it says. -/
structure Readable (record : AVCDecoderConfigurationRecord) : Prop where
  lengthSizeMinusOne : record.lengthSizeMinusOne.toNat < 2 ^ 2
  sps : Countable record.sps (2 ^ 5)
  pps : Countable record.pps (2 ^ 8)
  extended : ∀ config ∈ record.extendedConfig, ExtendedReadable config
  plain : isPlainProfile record.profileIndication = true → record.extendedConfig = none

theorem count_eq {sets : List Bytes} {bound : Nat} (countable : Countable sets bound)
    (small : bound ≤ 2 ^ 8) : count sets = sets.length := by
  have few := countable.count
  exact UInt64.toNat_ofNat_of_lt' (show sets.length < 2 ^ 64 by omega)

theorem Readable.fits {record : AVCDecoderConfigurationRecord} (readable : record.Readable) :
    record.Fits := by
  refine ⟨readable.lengthSizeMinusOne, ?_, ?_, fun config member => ?_⟩
  · rw [count_eq readable.sps (by decide)]
    exact readable.sps.count
  · rw [count_eq readable.pps (by decide)]
    exact readable.pps.count
  · have inner := readable.extended config member
    refine ⟨inner.chromaFormat, inner.bitDepthLumaMinus8, inner.bitDepthChromaMinus8, ?_⟩
    rw [count_eq inner.sets (by decide)]
    exact inner.sets.count

theorem readExtended_readable {buffer : Bytes} {position stop : Nat} {config : AvccExtendedConfig}
    (done : readExtended buffer position = .ok (config, stop)) : ExtendedReadable config := by
  obtain ⟨chroma, _, _, more⟩ := bind_eq_ok_iff.mp done
  obtain ⟨luma, _, _, more⟩ := bind_eq_ok_iff.mp more
  obtain ⟨depth, _, _, more⟩ := bind_eq_ok_iff.mp more
  obtain ⟨count, _, _, more⟩ := bind_eq_ok_iff.mp more
  obtain ⟨sets, _, counted, same⟩ := bind_eq_ok_iff.mp more
  cases same
  exact ⟨and_lt chroma (by decide), and_lt luma (by decide), and_lt depth (by decide),
    countable_of_repeated count.toNat_lt counted⟩

theorem demux_readable {data : Bytes} {record : AVCDecoderConfigurationRecord}
    (read : demux.parse data = .ok record) : record.Readable := by
  obtain ⟨stop, read⟩ := ok_of_parse read
  obtain ⟨_, _, _, more⟩ := bind_eq_ok_iff.mp read
  obtain ⟨profile, _, _, more⟩ := bind_eq_ok_iff.mp more
  obtain ⟨_, _, _, more⟩ := bind_eq_ok_iff.mp more
  obtain ⟨_, _, _, more⟩ := bind_eq_ok_iff.mp more
  obtain ⟨length, _, _, more⟩ := bind_eq_ok_iff.mp more
  obtain ⟨spsCount, _, _, more⟩ := bind_eq_ok_iff.mp more
  obtain ⟨sps, _, spsRead, more⟩ := bind_eq_ok_iff.mp more
  obtain ⟨ppsCount, _, _, more⟩ := bind_eq_ok_iff.mp more
  obtain ⟨pps, _, ppsRead, more⟩ := bind_eq_ok_iff.mp more
  obtain ⟨left, _, _, more⟩ := bind_eq_ok_iff.mp more
  obtain ⟨extended, _, extendedRead, same⟩ := bind_eq_ok_iff.mp more
  cases same
  refine ⟨and_lt length (by decide), countable_of_repeated (and_lt spsCount (by decide)) spsRead,
    countable_of_repeated ppsCount.toNat_lt ppsRead, ?_, ?_⟩
  · rintro config ⟨⟩
    unfold optionally at extendedRead
    split at extendedRead
    · obtain ⟨inner, _, innerRead, same⟩ := bind_eq_ok_iff.mp extendedRead
      cases same
      exact readExtended_readable innerRead
    · cases extendedRead
  · intro plain
    dsimp only at plain ⊢
    unfold optionally at extendedRead
    rw [plain] at extendedRead
    cases extendedRead
    rfl

theorem readExtended_reads {config : AvccExtendedConfig} (readable : ExtendedReadable config) :
    Reads readExtended (extendedBytes config) config := by
  have few := readable.sets.count
  have number : (UInt8.ofNat (count config.sequenceParameterSetExt)).toNat =
      config.sequenceParameterSetExt.length := by
    rw [count_eq readable.sets (by decide)]
    exact UInt8.toNat_ofNat_of_lt' few
  refine (Reads.readU8 _).bind ?_
  refine (Reads.readU8 _).bind ?_
  refine (Reads.readU8 _).bind ?_
  refine (Reads.readU8 _).bind ?_
  rw [number]
  refine readable.sets.reads.finish ?_
  rw [low_two readable.chromaFormat, low_three readable.bitDepthLumaMinus8,
    low_three readable.bitDepthChromaMinus8]
  exact Reads.pure config

/-- The extended configuration is read from the bytes that are left. -/
theorem readRest_reads {record : AVCDecoderConfigurationRecord} (readable : record.Readable) :
    ReadsLast (do
      let left ← remaining
      optionally (!isPlainProfile record.profileIndication && decide (0 < left)) readExtended)
      (optional extendedBytes record.extendedConfig) record.extendedConfig := by
  intro before
  have left : (remaining : Reader IoFault Nat)
      (before ++ optional extendedBytes record.extendedConfig) before.length =
        .ok ((optional extendedBytes record.extendedConfig).length, before.length) := by
    unfold remaining
    rw [List.length_append, Nat.add_sub_cancel_left]
  rw [bind_ok left]
  cases found : record.extendedConfig with
  | none =>
      unfold optionally
      rw [optional_none, List.length_nil, Bool.and_comm]
      rfl
  | some config =>
      have fancy : isPlainProfile record.profileIndication = false := by
        by_contra plain
        rw [readable.plain (Bool.not_eq_false _ ▸ plain)] at found
        cases found
      have positive : 0 < (extendedBytes config).length := by
        unfold extendedBytes
        rw [List.length_append]
        exact Nat.add_pos_left (Nat.succ_pos 3) _
      have read := (readExtended_reads (readable.extended config found)).map some
      have done := read before []
      rw [List.append_nil] at done
      unfold optionally
      rw [optional_some, fancy, decide_eq_true positive]
      exact done

theorem demux_bytes {record : AVCDecoderConfigurationRecord} (readable : record.Readable) :
    demux.parse record.bytes = .ok record := by
  have spsCount := count_eq readable.sps (by decide)
  have ppsCount : (UInt8.ofNat (count record.pps)).toNat = record.pps.length := by
    rw [count_eq readable.pps (by decide)]
    exact UInt8.toNat_ofNat_of_lt' readable.pps.count
  apply ReadsLast.parse
  refine (Reads.readU8 record.configurationVersion).bindLast ?_
  refine (Reads.readU8 record.profileIndication).bindLast ?_
  refine (Reads.readU8 record.profileCompatibility).bindLast ?_
  refine (Reads.readU8 record.levelIndication).bindLast ?_
  refine (Reads.readU8 _).bindLast ?_
  refine (Reads.readU8 _).bindLast ?_
  rw [spsCount, low_five readable.sps.count, low_two readable.lengthSizeMinusOne]
  refine readable.sps.reads.bindLast ?_
  refine (Reads.readU8 _).bindLast ?_
  rw [ppsCount]
  refine readable.pps.reads.bindLast ?_
  intro before
  obtain ⟨left, middle, remains, extended⟩ :=
    bind_eq_ok_iff.mp (readRest_reads readable before)
  rw [bind_ok remains, bind_ok extended]
  rfl

/-- The record is written in as many bytes as it measures, and reading them gives it back. -/
def Survives (record : AVCDecoderConfigurationRecord) : Prop :=
  ∃ bytes, record.mux = .ok bytes ∧ bytes.length = record.size ∧ demux.parse bytes = .ok record

theorem survives_of_demux {data : Bytes} {record : AVCDecoderConfigurationRecord}
    (read : demux.parse data = .ok record) : record.Survives := by
  have readable := demux_readable read
  exact ⟨record.bytes, mux_eq_ok_iff.mpr ⟨readable.fits, rfl⟩, record.length_bytes,
    demux_bytes readable⟩

end AVCDecoderConfigurationRecord

end ScuffleVideo.H264
