import ScuffleVideo.Av1.Config
import ScuffleVideo.Wire.BitDecoding

/-!
# AV1 configuration records read and written again

A record that was read fits the fields of its writer.  The writer clears the two bits that
the reader takes for the range of the colours, so the record comes back exactly when they
were clear.
-/

namespace ScuffleVideo.Av1

open Wire BitReader

namespace AV1CodecConfigurationRecord

variable {record : AV1CodecConfigurationRecord} {data : Bytes}

/-- The record is written in as many bytes as it measures, and reading them gives it back. -/
def Survives (record : AV1CodecConfigurationRecord) : Prop :=
  ∃ bytes, record.mux = .ok bytes ∧ bytes.length = record.size ∧ demux.parse bytes = .ok record

theorem readDelay_fits {state last : BitState} {buffer : Bytes} {position stop : Nat}
    {delay : Option UInt8} (done : readDelay state buffer position = .ok ((delay, last), stop)) :
    ∀ inner ∈ delay, inner.toNat < 2 ^ 4 := by
  obtain ⟨present, _, _, _, more⟩ := sequence_ok_iff.mp done
  cases present with
  | true =>
      obtain ⟨number, _, _, read, same⟩ := sequence_ok_iff.mp more
      cases same
      rintro _ ⟨⟩
      exact toUInt8_lt (readBits_lt (by decide) read)
  | false =>
      obtain ⟨_, _, _, _, same⟩ := sequence_ok_iff.mp more
      cases same
      rintro _ ⟨⟩

/-- The bits of the colour range are the highest of the fourth byte. -/
theorem colourRange_eq_zero_iff {buffer : Bytes} (enough : Enough buffer 24 2) :
    (UInt64.ofNat (ofBits (slice buffer 24 2))).toUInt8 = 0 ↔
      ∀ byte ∈ buffer[3]?, byte &&& 0b11000000 = 0 := by
  have size : 4 ≤ buffer.length := by
    unfold Enough at enough
    omega
  match buffer, size with
  | first :: second :: third :: fourth :: rest, _ =>
      have small := fourth.toNat_lt
      have bits : ofBits (slice (first :: second :: third :: fourth :: rest) 24 2) =
          fourth.toNat / 64 := by
        rw [slice, bytesBits_cons, bytesBits_cons, bytesBits_cons, bytesBits_cons,
          ← List.append_assoc, ← List.append_assoc, List.drop_left' (by simp), byteBits,
          toBits_succ, toBits_succ]
        have high (number : Nat) : ((number % 2) == 1).toNat = number % 2 := by
          rcases Nat.mod_two_eq_zero_or_one number with even | odd
          · rw [even]
            rfl
          · rw [odd]
            rfl
        change (0 * 2 + Bool.toNat _) * 2 + Bool.toNat _ = _
        rw [high, high]
        omega
      have masked : fourth &&& 0b11000000 = 0 ↔ fourth.toNat < 64 := by
        have table : ∀ number : Fin 256, number.val &&& 192 = 0 ↔ number.val < 64 := by
          decide +kernel
        rw [← UInt8.toNat_inj, UInt8.toNat_and]
        exact table ⟨fourth.toNat, small⟩
      have value : (UInt64.ofNat (fourth.toNat / 64)).toUInt8 = 0 ↔ fourth.toNat / 64 = 0 := by
        rw [← UInt8.toNat_inj, UInt64.toNat_toUInt8, UInt64.toNat_ofNat']
        change _ = 0 ↔ _
        omega
      change _ ↔ ∀ byte ∈ some fourth, _
      rw [bits, value]
      simp only [Option.mem_def, Option.some.injEq, forall_eq', masked]
      omega

/-- What reading a record tells about its fields. -/
theorem fields_of_demux (read : demux.parse data = .ok record) :
    record.Fits ∧ (record.hdrWcgIdc = 0 ↔ ∀ byte ∈ data[3]?, byte &&& 0b11000000 = 0) := by
  obtain ⟨stop, read⟩ := Reader.ok_of_parse read
  obtain ⟨⟨make, state⟩, _, fields, rest⟩ := Reader.bind_eq_ok_iff.mp read
  have made : ∃ obu, record = make obu := by
    dsimp only at rest
    split at rest
    · cases rest
    · obtain ⟨obu, _, _, same⟩ := Reader.bind_eq_ok_iff.mp rest
      cases same
      exact ⟨obu, rfl⟩
  obtain ⟨obu, rfl⟩ := made
  have standing := Standing.start data
  obtain ⟨marker, _, _, taken, more⟩ := sequence_ok_iff.mp fields
  obtain ⟨_, _, standing⟩ := Takes.readBit.of_ok standing taken
  cases marker with
  | false => cases more
  | true =>
  obtain ⟨version, _, _, taken, more⟩ := sequence_ok_iff.mp more
  obtain ⟨_, _, standing⟩ := (Takes.readBits 7).of_ok standing taken
  split at more
  · cases more
  · obtain ⟨profile, _, _, taken, more⟩ := sequence_ok_iff.mp more
    obtain ⟨_, _, standing⟩ := (Takes.readBits 3).of_ok standing taken
    have profileSmall := readBits_lt (by decide) taken
    obtain ⟨level, _, _, taken, more⟩ := sequence_ok_iff.mp more
    obtain ⟨_, _, standing⟩ := (Takes.readBits 5).of_ok standing taken
    have levelSmall := readBits_lt (by decide) taken
    obtain ⟨_, _, _, taken, more⟩ := sequence_ok_iff.mp more
    obtain ⟨_, _, standing⟩ := Takes.readBit.of_ok standing taken
    obtain ⟨_, _, _, taken, more⟩ := sequence_ok_iff.mp more
    obtain ⟨_, _, standing⟩ := Takes.readBit.of_ok standing taken
    obtain ⟨_, _, _, taken, more⟩ := sequence_ok_iff.mp more
    obtain ⟨_, _, standing⟩ := Takes.readBit.of_ok standing taken
    obtain ⟨_, _, _, taken, more⟩ := sequence_ok_iff.mp more
    obtain ⟨_, _, standing⟩ := Takes.readBit.of_ok standing taken
    obtain ⟨_, _, _, taken, more⟩ := sequence_ok_iff.mp more
    obtain ⟨_, _, standing⟩ := Takes.readBit.of_ok standing taken
    obtain ⟨_, _, _, taken, more⟩ := sequence_ok_iff.mp more
    obtain ⟨_, _, standing⟩ := Takes.readBit.of_ok standing taken
    obtain ⟨samplePosition, _, _, taken, more⟩ := sequence_ok_iff.mp more
    obtain ⟨_, _, standing⟩ := (Takes.readBits 2).of_ok standing taken
    have positionSmall := readBits_lt (by decide) taken
    obtain ⟨range, _, _, taken, more⟩ := sequence_ok_iff.mp more
    obtain ⟨range_eq, enough, _⟩ := (Takes.readBits 2).of_ok standing taken
    obtain ⟨_, _, _, _, more⟩ := sequence_ok_iff.mp more
    obtain ⟨delay, _, _, taken, same⟩ := sequence_ok_iff.mp more
    have delaySmall := readDelay_fits taken
    cases same
    refine ⟨⟨toUInt8_lt profileSmall, toUInt8_lt levelSmall, toUInt8_lt positionSmall,
      delaySmall⟩, ?_⟩
    rw [← colourRange_eq_zero_iff enough, range_eq]
    rfl

theorem readDelay_decodes {delay : Option UInt8} (fits : ∀ inner ∈ delay, inner.toNat < 2 ^ 4) :
    Decodes readDelay (delayLayout delay) delay := by
  cases delay with
  | none =>
      refine (Decodes.readBit false).bind ?_
      have pass := @Decodes.seekBits _ 4 (toBits 4 0) [] (fun _ => pure none) (none : Option UInt8)
        (length_toBits 4 0) fun _ => Decodes.pure none
      rw [List.append_nil] at pass
      exact pass
  | some delay =>
      refine (Decodes.readBit true).bind ?_
      refine (Decodes.readBits (by decide) (fits delay rfl)).finish ?_
      have same : (UInt64.ofNat delay.toNat).toUInt8 = delay := toUInt8_ofNat delay
      rw [same]
      exact Decodes.pure _

theorem readFields_decodes (fits : record.Fits) :
    Decodes readFields record.layout
      fun configObu => { record with hdrWcgIdc := 0, configObu := configObu } := by
  refine (Decodes.readBit true).bind ?_
  refine (Decodes.readBits (show 7 ≤ 64 by decide) (by decide)).bind ?_
  refine (Decodes.readBits (by decide) fits.seqProfile).bind ?_
  refine (Decodes.readBits (by decide) fits.seqLevelIdx0).bind ?_
  refine (Decodes.readBit record.seqTier0).bind ?_
  refine (Decodes.readBit record.highBitdepth).bind ?_
  refine (Decodes.readBit record.twelveBit).bind ?_
  refine (Decodes.readBit record.monochrome).bind ?_
  refine (Decodes.readBit record.chromaSubsamplingX).bind ?_
  refine (Decodes.readBit record.chromaSubsamplingY).bind ?_
  refine (Decodes.readBits (by decide) fits.chromaSamplePosition).bind ?_
  rw [show toBits 3 0 = toBits 2 0 ++ toBits 1 0 from rfl, List.append_assoc]
  refine (Decodes.readBits (show 2 ≤ 64 by decide) (by decide)).bind ?_
  refine Decodes.seekBits (length_toBits 1 0) fun _ => ?_
  refine (readDelay_decodes fits.delay).finish ?_
  rw [toUInt8_ofNat, toUInt8_ofNat, toUInt8_ofNat]
  exact Decodes.pure _

/-- A record is read back with the range of its colours cleared. -/
theorem demux_bytes (fits : record.Fits) :
    demux.parse record.bytes = .ok { record with hdrWcgIdc := 0 } := by
  have whole : bytesBits record.bytes = record.layout ++ bytesBits record.configObu := by
    rw [bytes, bytesBits_append, bytesBits_fieldBytes fits]
  obtain ⟨state, stop, done, there⟩ := (readFields_decodes fits).run whole
  have length : record.layout.length = 32 := by
    rw [← bytesBits_fieldBytes fits, length_bytesBits]
    rfl
  rw [length] at there
  have aligned : state.bitPos = 0 := there.bitPos_eq
  have reached : stop = 4 := by
    have place := there.aligned aligned
    omega
  have read : demux record.bytes 0 =
      .ok ({ record with hdrWcgIdc := 0 }, max 4 record.bytes.length) := by
    unfold demux
    rw [Reader.bind_ok done]
    dsimp only
    rw [isAligned_iff.mpr aligned, reached]
    rfl
  unfold Reader.parse
  rw [read]

/-- A record that was read comes back from its bytes exactly when the bits of the colour
range were clear. -/
theorem survives_iff (data : Bytes) (record : AV1CodecConfigurationRecord)
    (read : demux.parse data = .ok record) :
    record.Survives ↔ ∀ byte ∈ data[3]?, byte &&& 0b11000000 = 0 := by
  obtain ⟨fits, clear⟩ := fields_of_demux read
  rw [← clear]
  constructor
  · rintro ⟨bytes, written, _, back⟩
    obtain ⟨_, rfl⟩ := mux_eq_ok_iff.mp written
    rw [demux_bytes fits] at back
    exact (congrArg hdrWcgIdc (Except.ok.inj back)).symm
  · intro zero
    have same : { record with hdrWcgIdc := 0 } = record := by
      cases record
      cases zero
      rfl
    exact ⟨record.bytes, mux_eq_ok_iff.mpr ⟨fits, rfl⟩, record.length_bytes,
      (demux_bytes fits).trans (congrArg Except.ok same)⟩

/-- A record whose fields are all zero but for the range of its colours. -/
def ranged (hdrWcgIdc : UInt8) : AV1CodecConfigurationRecord :=
  ⟨0, 0, false, false, false, false, false, false, 0, hdrWcgIdc, none, []⟩

theorem ranged_survives : (ranged 0).Survives := by
  refine (survives_iff [0x81, 0x00, 0x00, 0x00] (ranged 0) (by decide +kernel)).mpr ?_
  rintro byte ⟨⟩
  rfl

/-- The two bits of the colour range are read, and written as zeros. -/
theorem ranged_lost :
    ¬ ∀ (data : Bytes) (record : AV1CodecConfigurationRecord),
      demux.parse data = .ok record → record.Survives := by
  intro all
  have read : demux.parse [0x81, 0x00, 0x00, 0x40] = .ok (ranged 1) := by decide +kernel
  obtain ⟨bytes, written, _, back⟩ := all _ _ read
  have rewritten : (ranged 1).mux = .ok [0x81, 0x00, 0x00, 0x00] := by decide +kernel
  have reread : demux.parse [0x81, 0x00, 0x00, 0x00] = .ok (ranged 0) := by decide +kernel
  rw [Except.ok.inj (written.symm.trans rewritten), reread] at back
  cases back

end AV1CodecConfigurationRecord

end ScuffleVideo.Av1
