import ScuffleVideo.Av1.ConfigRoundTrip
import ScuffleVideo.H265.ConfigRoundTrip
import ScuffleVideo.Mp4.DescriptorRoundTrip
import ScuffleVideo.Mp4.Recovery

/-!
# Boxes of sample entries that come back

The boxes that describe a picture, a bit rate or a decoder have short headers.  The
configurations of the codecs come back as far as their own records do; the descriptors of
a stream do if every size among them reads the same both ways round.
-/

namespace ScuffleVideo.Mp4

open Wire Wire.Reader

/-- A reader that puts a box around a record returns the box of what it reads. -/
theorem parse_wrapped {α β : Type} {reader : Reader IoFault α} (wrap : α → β) {data : Bytes}
    {record : α} (read : reader.parse data = .ok record) :
    Reader.parse (do return wrap (← reader)) data = .ok (wrap record) := by
  obtain ⟨stop, done⟩ := ok_of_parse read
  unfold Reader.parse
  rw [map_ok done wrap]

/-! ## Pictures and bit rates -/

instance : Recovers Clap where
  Fits clap := clap.header = ⟨Clap.name⟩
  Lossy _ := False
  demux_eq _ clap _ fits _ written := by
    cases written
    change (Clap.read ⟨Clap.name⟩).parse _ = _
    rw [← fits]
    simp only [List.append_assoc]
    apply Reads.parse
    apply (Reads.readU32 clap.cleanApertureWidthN).bind
    apply (Reads.readU32 clap.cleanApertureWidthD).bind
    apply (Reads.readU32 clap.cleanApertureHeightN).bind
    apply (Reads.readU32 clap.cleanApertureHeightD).bind
    apply (Reads.readU32 clap.horizOffN).bind
    apply (Reads.readU32 clap.horizOffD).bind
    apply (Reads.readU32 clap.vertOffN).bind
    apply (Reads.readU32 clap.vertOffD).finish
    exact Reads.pure clap
  fits _ _ clap read _ _ := by
    have yields : Yields (Clap.read ⟨Clap.name⟩) fun clap => clap.header = ⟨Clap.name⟩ := by
      unfold Clap.read
      iterate 8 refine .bind fun _ => ?_
      exact .pure rfl
    exact yields.parse read

instance : Recovers Pasp where
  Fits pasp := pasp.header = ⟨Pasp.name⟩
  Lossy _ := False
  demux_eq _ pasp _ fits _ written := by
    cases written
    change (Pasp.read ⟨Pasp.name⟩).parse _ = _
    rw [← fits]
    apply Reads.parse
    apply (Reads.readU32 pasp.hSpacing).bind
    apply (Reads.readU32 pasp.vSpacing).finish
    exact Reads.pure pasp
  fits _ _ pasp read _ _ := by
    have yields : Yields (Pasp.read ⟨Pasp.name⟩) fun pasp => pasp.header = ⟨Pasp.name⟩ :=
      .bind fun _ => .bind fun _ => .pure rfl
    exact yields.parse read

instance : Recovers Btrt where
  Fits btrt := btrt.header = ⟨Btrt.name⟩
  Lossy _ := False
  demux_eq _ btrt _ fits _ written := by
    cases written
    change (Btrt.read ⟨Btrt.name⟩).parse _ = _
    rw [← fits, List.append_assoc]
    apply Reads.parse
    apply (Reads.readU32 btrt.bufferSizeDb).bind
    apply (Reads.readU32 btrt.maxBitrate).bind
    apply (Reads.readU32 btrt.avgBitrate).finish
    exact Reads.pure btrt
  fits _ _ btrt read _ _ := by
    have yields : Yields (Btrt.read ⟨Btrt.name⟩) fun btrt => btrt.header = ⟨Btrt.name⟩ :=
      .bind fun _ => .bind fun _ => .bind fun _ => .pure rfl
    exact yields.parse read

namespace Colr

/-- The type of an unknown description is not the one of the known kind. -/
def Canonical : ColorType → Prop
  | .nclx .. => True
  | .unknown colorType _ => colorType ≠ nclx

theorem fullRange_bit (flag : Bool) : ((if flag then 0x80 else 0x00 : UInt8) >>> 7 == 1) = flag := by
  cases flag <;> rfl

theorem read_last {colorType : ColorType} (canonical : Canonical colorType) (header : BoxHeader) :
    ReadsLast (read header) (payload colorType) ⟨header, colorType⟩ := by
  cases colorType with
  | nclx colorPrimaries transferCharacteristics matrixCoefficients fullRangeFlag =>
      unfold read payload
      refine (Reads.readFourCC nclx).bindLast ?_
      rw [if_pos rfl]
      have fields : Reads readNclx (beU16 colorPrimaries ++ (beU16 transferCharacteristics ++
          (beU16 matrixCoefficients ++ [if fullRangeFlag then 0x80 else 0x00])))
          (.nclx colorPrimaries transferCharacteristics matrixCoefficients fullRangeFlag) := by
        apply (Reads.readU16 colorPrimaries).bind
        apply (Reads.readU16 transferCharacteristics).bind
        apply (Reads.readU16 matrixCoefficients).bind
        apply (Reads.readU8 _).finish
        rw [fullRange_bit]
        exact Reads.pure _
      intro before
      have done := (fields.map (Colr.mk header)) before []
      rw [List.append_nil] at done
      exact done
  | unknown colorType data =>
      unfold read payload
      refine (Reads.readFourCC colorType).bindLast ?_
      rw [if_neg canonical]
      exact (ReadsLast.extractRemaining data).map fun data =>
        (⟨header, .unknown colorType data⟩ : Colr)

instance : Recovers Colr where
  Fits colr := colr.header = ⟨name⟩ ∧ Canonical colr.colorType
  Lossy _ := False
  demux_eq _ colr _ fits _ written := by
    obtain ⟨header, colorType⟩ := colr
    obtain ⟨named, canonical⟩ := fits
    cases named
    cases written
    exact (read_last canonical ⟨name⟩).parse
  fits _ _ colr read _ _ := by
    have yields : Yields (Colr.read ⟨name⟩) fun colr => colr.header = ⟨name⟩ ∧
        Canonical colr.colorType := by
      refine .bind fun colorType =>
        .ite (fun _ => ?_) fun other => .bind fun _ => .pure ⟨rfl, other⟩
      have known : Yields readNclx Canonical := by
        unfold readNclx
        iterate 4 refine .bind fun _ => ?_
        exact .pure trivial
      exact known.after fun _ canonical => .pure ⟨rfl, canonical⟩
    exact yields.parse read

end Colr

/-! ## Decoder configurations -/

open H264 (AVCDecoderConfigurationRecord)
open H265 (HEVCDecoderConfigurationRecord)
open Av1 (AV1CodecConfigurationRecord)

/-- What a box around a record was read from holds the record. -/
theorem parse_of_wrapped {α β : Type} {reader : Reader IoFault α} (wrap : α → β) {data : Bytes}
    {box : β} (read : Reader.parse (do return wrap (← reader)) data = .ok box) :
    ∃ record, reader.parse data = .ok record ∧ wrap record = box := by
  obtain ⟨_, done⟩ := ok_of_parse read
  obtain ⟨record, _, inner, same⟩ := bind_eq_ok_iff.mp done
  cases same
  refine ⟨record, ?_, rfl⟩
  unfold Reader.parse
  rw [inner]

instance : Recovers AvcC where
  Fits avcC := avcC.header = ⟨AvcC.name⟩ ∧ avcC.avcDecoderConfigurationRecord.Readable
  Lossy _ := False
  demux_eq _ avcC _ fits _ written := by
    obtain ⟨header, record⟩ := avcC
    obtain ⟨named, readable⟩ := fits
    cases named
    obtain ⟨_, rfl⟩ := AVCDecoderConfigurationRecord.mux_eq_ok_iff.mp written
    exact parse_wrapped (AvcC.mk ⟨AvcC.name⟩)
      (AVCDecoderConfigurationRecord.demux_bytes readable)
  fits _ _ avcC read _ _ := by
    obtain ⟨record, inner, rfl⟩ := parse_of_wrapped (AvcC.mk ⟨AvcC.name⟩) read
    exact ⟨rfl, AVCDecoderConfigurationRecord.demux_readable inner⟩

instance : Recovers HvcC where
  Fits hvcC := hvcC.header = ⟨HvcC.name⟩ ∧ hvcC.hevcConfig.Readable
  Lossy _ := False
  demux_eq _ hvcC _ fits _ written := by
    obtain ⟨header, record⟩ := hvcC
    obtain ⟨named, readable⟩ := fits
    cases named
    obtain ⟨_, rfl⟩ := HEVCDecoderConfigurationRecord.mux_eq_ok_iff.mp written
    exact parse_wrapped (HvcC.mk ⟨HvcC.name⟩)
      (HEVCDecoderConfigurationRecord.demux_bytes readable)
  fits _ _ hvcC read _ _ := by
    obtain ⟨record, inner, rfl⟩ := parse_of_wrapped (HvcC.mk ⟨HvcC.name⟩) read
    obtain ⟨_, done⟩ := ok_of_parse inner
    obtain ⟨⟨_, _⟩, _, fields, same⟩ := bind_eq_ok_iff.mp done
    cases same
    exact ⟨rfl, HEVCDecoderConfigurationRecord.readRecord_readable fields⟩

/-- The range of the colours is read and not written. -/
instance : Recovers Av1C where
  Fits av1C := av1C.header = ⟨Av1C.name⟩ ∧ av1C.av1Config.Fits ∧ av1C.av1Config.hdrWcgIdc = 0
  Lossy av1C := av1C.av1Config.hdrWcgIdc ≠ 0
  demux_eq _ av1C _ fits _ written := by
    obtain ⟨header, record⟩ := av1C
    obtain ⟨named, within, clear⟩ := fits
    cases named
    obtain ⟨_, rfl⟩ := AV1CodecConfigurationRecord.mux_eq_ok_iff.mp written
    have read := AV1CodecConfigurationRecord.demux_bytes within
    have same : { record with hdrWcgIdc := 0 } = record := by
      cases record
      cases clear
      rfl
    rw [same] at read
    exact parse_wrapped (Av1C.mk ⟨Av1C.name⟩) read
  fits _ _ av1C read _ exactly := by
    obtain ⟨record, inner, rfl⟩ := parse_of_wrapped (Av1C.mk ⟨Av1C.name⟩) read
    exact ⟨rfl, (AV1CodecConfigurationRecord.fields_of_demux inner).1, not_not.mp exactly⟩

/-! ## Descriptors -/

namespace Esds

/-- The descriptors come back, and there are none that are not written. -/
def Settled (esds : Esds) : Prop :=
  (DynDescriptor.es esds.esDescriptor).WellFormed ∧
    (DynDescriptor.es esds.esDescriptor).Palindromic ∧ esds.unknown = []

instance : Recovers Esds where
  Fits esds := esds.header.header = ⟨name⟩ ∧ esds.Settled
  Lossy esds := ¬esds.Settled
  demux_eq _ esds payload fits _ written := by
    obtain ⟨full, descriptor, unknown⟩ := esds
    obtain ⟨named, formed, same, alone⟩ := fits
    cases alone
    have small := FullBoxHeader.small_of_headed written
    change primitiveMux _ = _ at written
    rw [primitiveMux, FullBoxHeader.mux_eq_ok small] at written
    obtain ⟨_, first, written⟩ := sequence_eq_ok_iff.mp written
    cases first
    obtain ⟨bytes, inner, last⟩ := sequence_eq_ok_iff.mp written
    cases last
    have nonempty : bytes ≠ [] := by
      obtain ⟨rest, _, _, whole⟩ := formed.mux
      cases whole.symm.trans inner
      exact List.cons_ne_nil _ _
    have alone : Reads DynDescriptor.demux bytes (.es descriptor) := by
      intro before after
      refine DynDescriptor.reads_of_palindromic formed same inner ?_ before after
      simp only [List.length_append]
      omega
    have records := (ReadsAll.cons alone nonempty .nil).untilEnd IoFault.unfinished
    change (Esds.read ⟨name⟩).parse _ = _
    rw [← named]
    apply ReadsLast.parse
    refine (FullBoxHeader.demux_reads small).bindLast fun before => ?_
    have found := records before
    rw [List.append_nil] at found
    rw [bind_ok found]
    rfl
  fits _ _ esds read _ exactly := by
    have yields : Yields (Esds.read ⟨name⟩) fun esds => esds.header.header = ⟨name⟩ := by
      refine (FullBoxHeader.yields _).after fun full named => .bind fun descriptors => ?_
      split
      · exact .fail _
      · exact .pure named
    exact ⟨yields.parse read, not_not.mp exactly⟩

end Esds

end ScuffleVideo.Mp4
