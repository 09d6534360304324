import ScuffleVideo.Mp4.CompactSizes
import ScuffleVideo.Mp4.CompositionOffsets
import ScuffleVideo.Mp4.EditList
import ScuffleVideo.Mp4.TextFields
import ScuffleVideo.Mp4.TimeFields
import ScuffleVideo.Wire.Yields

/-!
# Boxes that come back

For each type of boxes without boxes inside: what its fields must hold for the bytes to
give the box back, and that what was read holds it.  Nearly everything that is read fits.
What does not is lossy: a text with a byte beyond ASCII, which is written in two bytes, or
a table of padding bits with a number of samples that its count cannot say.
-/

namespace ScuffleVideo.Mp4

open Wire Wire.Reader

/-- A type of boxes that come back from their bytes as far as their fields fit. -/
class Recovers (β : Type) [BoxType β] where
  /-- The fields hold what reading can give them. -/
  Fits : β → Prop
  /-- The fields are read from bytes, and written as others. -/
  Lossy : β → Prop
  demux_eq : ∀ (checks : OverflowChecks) (box : β) (payload : Bytes), Fits box →
    BoxType.validate box = .ok () → BoxType.primitiveMux box = .ok payload →
    BoxType.demux checks ⟨BoxType.name β⟩ payload = .ok box
  fits : ∀ (checks : OverflowChecks) (data : Bytes) (box : β),
    BoxType.demux checks ⟨BoxType.name β⟩ data = .ok box →
    BoxType.validate box = .ok () → ¬Lossy box → Fits box

/-! ## Full headers -/

theorem FullBoxHeader.yields (header : BoxHeader) :
    Yields (FullBoxHeader.demux header) fun full => full.header = header :=
  .bind fun _ => .bind fun _ => .pure rfl

/-- What is written as a full header and a body is read as the two are. -/
theorem parse_headed {β : Type} (read : BoxHeader → Reader IoFault β) {header : FullBoxHeader}
    {name : FourCC} {body payload : Bytes} {box : β} (named : header.header = ⟨name⟩)
    (written : (do let first ← header.mux; return first ++ body) = .ok payload)
    (reads : header.flags.toNat < 2 ^ 24 →
      Reads (read header.header) (header.bytes ++ body) box) :
    (read ⟨name⟩).parse payload = .ok box := by
  have small := FullBoxHeader.small_of_headed written
  rw [FullBoxHeader.mux_eq_ok small] at written
  cases written
  rw [← named]
  exact (reads small).parse

/-- Boxes that come back whenever their header is of their type. -/
@[reducible]
def Recovers.ofHeader {β : Type} [BoxType β] (header : β → FullBoxHeader)
    (read : BoxHeader → Reader IoFault β) {body : β → Bytes}
    (demuxed : ∀ checks head data, BoxType.demux checks head data = (read head).parse data)
    (muxed : ∀ box, BoxType.primitiveMux box = do
      let first ← (header box).mux
      return first ++ body box)
    (reads : ∀ box, (header box).flags.toNat < 2 ^ 24 → BoxType.validate box = .ok () →
      Reads (read (header box).header) ((header box).bytes ++ body box) box)
    (yields : ∀ head, Yields (read head) fun box => (header box).header = head) :
    Recovers β where
  Fits box := (header box).header = ⟨BoxType.name β⟩
  Lossy _ := False
  demux_eq checks box payload fits valid written := by
    rw [demuxed]
    exact parse_headed read fits ((muxed box).symm.trans written) fun small => reads box small valid
  fits checks data box read _ _ := by
    rw [demuxed] at read
    exact (yields _).parse read

/-! ## Headers of movies and tracks -/

theorem Mvhd.yields (header : BoxHeader) :
    Yields (read header) fun mvhd => mvhd.header.header = header := by
  refine (FullBoxHeader.yields header).after fun full named => ?_
  iterate 11 refine .bind fun _ => ?_
  exact .pure named

instance : Recovers Mvhd :=
  .ofHeader Mvhd.header Mvhd.read (fun _ _ _ => rfl) (fun _ => rfl)
    (fun _ small valid => Mvhd.read_reads small valid) Mvhd.yields

theorem Trex.read_reads {trex : Trex} (small : trex.header.flags.toNat < 2 ^ 24) :
    Reads (read trex.header.header) (trex.header.bytes ++ trex.body) trex := by
  apply (FullBoxHeader.demux_reads small).bind
  apply (Reads.readU32 trex.trackId).bind
  apply (Reads.readU32 trex.defaultSampleDescriptionIndex).bind
  apply (Reads.readU32 trex.defaultSampleDuration).bind
  apply (Reads.readU32 trex.defaultSampleSize).bind
  apply (Reads.readU32 trex.defaultSampleFlags).finish
  exact Reads.pure trex

theorem Trex.yields (header : BoxHeader) :
    Yields (read header) fun trex => trex.header.header = header := by
  refine (FullBoxHeader.yields header).after fun full named => ?_
  iterate 5 refine .bind fun _ => ?_
  exact .pure named

instance : Recovers Trex :=
  .ofHeader Trex.header Trex.read (fun _ _ _ => rfl) (fun _ => rfl)
    (fun _ small _ => Trex.read_reads small) Trex.yields

theorem Mehd.yields (header : BoxHeader) :
    Yields (read header) fun mehd => mehd.header.header = header := by
  refine (FullBoxHeader.yields header).after fun full named => ?_
  refine .bind fun _ => ?_
  exact .pure named

instance : Recovers Mehd :=
  .ofHeader Mehd.header Mehd.read (fun _ _ _ => rfl) (fun _ => rfl)
    (fun _ small valid => Mehd.read_reads small valid) Mehd.yields

theorem Tkhd.yields (header : BoxHeader) :
    Yields (read header) fun tkhd => tkhd.header.header = header := by
  refine (FullBoxHeader.yields header).after fun full named => ?_
  iterate 13 refine .bind fun _ => ?_
  exact .pure named

instance : Recovers Tkhd :=
  .ofHeader Tkhd.header Tkhd.read (fun _ _ _ => rfl) (fun _ => rfl)
    (fun _ small valid => Tkhd.read_reads small valid) Tkhd.yields

theorem Mdhd.yields (header : BoxHeader) :
    Yields (read header) fun mdhd => mdhd.header.header = header := by
  refine (FullBoxHeader.yields header).after fun full named => ?_
  iterate 6 refine .bind fun _ => ?_
  exact .pure named

instance : Recovers Mdhd :=
  .ofHeader Mdhd.header Mdhd.read (fun _ _ _ => rfl) (fun _ => rfl)
    (fun _ small valid => Mdhd.read_reads small valid) Mdhd.yields

/-! ## Media headers -/

theorem Hmhd.read_reads {hmhd : Hmhd} (small : hmhd.header.flags.toNat < 2 ^ 24) :
    Reads (read hmhd.header.header) (hmhd.header.bytes ++ hmhd.body) hmhd := by
  apply (FullBoxHeader.demux_reads small).bind
  apply (Reads.readU16 hmhd.maxPduSize).bind
  apply (Reads.readU16 hmhd.avgPduSize).bind
  apply (Reads.readU32 hmhd.maxBitrate).bind
  apply (Reads.readU32 hmhd.avgBitrate).bind
  apply (Reads.readU32 hmhd.reserved).finish
  exact Reads.pure hmhd

theorem Hmhd.yields (header : BoxHeader) :
    Yields (read header) fun hmhd => hmhd.header.header = header := by
  refine (FullBoxHeader.yields header).after fun full named => ?_
  iterate 5 refine .bind fun _ => ?_
  exact .pure named

instance : Recovers Hmhd :=
  .ofHeader Hmhd.header Hmhd.read (fun _ _ _ => rfl) (fun _ => rfl)
    (fun _ small _ => Hmhd.read_reads small) Hmhd.yields

theorem Nmhd.yields (header : BoxHeader) :
    Yields (read header) fun nmhd => nmhd.header.header = header :=
  (FullBoxHeader.yields header).after fun _ named => .pure named

theorem Nmhd.read_reads {nmhd : Nmhd} (small : nmhd.header.flags.toNat < 2 ^ 24) :
    Reads (read nmhd.header.header) (nmhd.header.bytes ++ []) nmhd :=
  (FullBoxHeader.demux_reads small).bind (Reads.pure nmhd)

/-- The full header is all there is. -/
instance : Recovers Nmhd :=
  .ofHeader Nmhd.header Nmhd.read (fun _ _ _ => rfl)
    (fun _ => by simp only [List.append_nil, bind_pure]; rfl)
    (fun _ small _ => Nmhd.read_reads small) Nmhd.yields

theorem Smhd.read_reads {smhd : Smhd} (small : smhd.header.flags.toNat < 2 ^ 24) :
    Reads (read smhd.header.header) (smhd.header.bytes ++ smhd.body) smhd := by
  apply (FullBoxHeader.demux_reads small).bind
  apply (Reads.readI16 smhd.balance.bits).bind
  apply (Reads.readU16 smhd.reserved).finish
  exact Reads.pure smhd

theorem Smhd.yields (header : BoxHeader) :
    Yields (read header) fun smhd => smhd.header.header = header := by
  refine (FullBoxHeader.yields header).after fun full named => ?_
  iterate 2 refine .bind fun _ => ?_
  exact .pure named

instance : Recovers Smhd :=
  .ofHeader Smhd.header Smhd.read (fun _ _ _ => rfl) (fun _ => rfl)
    (fun _ small _ => Smhd.read_reads small) Smhd.yields

theorem Vmhd.read_reads {vmhd : Vmhd} (small : vmhd.header.flags.toNat < 2 ^ 24) :
    Reads (read vmhd.header.header) (vmhd.header.bytes ++ vmhd.body) vmhd := by
  apply (FullBoxHeader.demux_reads small).bind
  apply (Reads.readU16 vmhd.graphicsMode).bind
  apply (Reads.readArray fun number _ => Reads.readU16 number).finish
  exact Reads.pure vmhd

theorem Vmhd.yields (header : BoxHeader) :
    Yields (read header) fun vmhd => vmhd.header.header = header := by
  refine (FullBoxHeader.yields header).after fun full named => ?_
  iterate 2 refine .bind fun _ => ?_
  exact .pure named

instance : Recovers Vmhd :=
  .ofHeader Vmhd.header Vmhd.read (fun _ _ _ => rfl) (fun _ => rfl)
    (fun _ small _ => Vmhd.read_reads small) Vmhd.yields

/-! ## Movie fragments -/

theorem Mfhd.yields (header : BoxHeader) :
    Yields (read header) fun mfhd => mfhd.header.header = header := by
  refine (FullBoxHeader.yields header).after fun full named => ?_
  refine .bind fun _ => ?_
  exact .pure named

instance : Recovers Mfhd :=
  .ofHeader Mfhd.header Mfhd.read (fun _ _ _ => rfl) (fun _ => rfl)
    (fun _ small _ => Mfhd.read_reads small) Mfhd.yields

theorem Tfhd.yields (header : BoxHeader) :
    Yields (read header) fun tfhd => tfhd.header.header = header := by
  refine (FullBoxHeader.yields header).after fun full named => ?_
  iterate 6 refine .bind fun _ => ?_
  exact .pure named

instance : Recovers Tfhd :=
  .ofHeader Tfhd.header Tfhd.read (fun _ _ _ => rfl) (fun _ => rfl)
    (fun _ small valid => Tfhd.read_reads valid small) Tfhd.yields

theorem Tfdt.yields (header : BoxHeader) :
    Yields (read header) fun tfdt => tfdt.header.header = header := by
  refine (FullBoxHeader.yields header).after fun full named => ?_
  refine .bind fun _ => ?_
  exact .pure named

instance : Recovers Tfdt :=
  .ofHeader Tfdt.header Tfdt.read (fun _ _ _ => rfl) (fun _ => rfl)
    (fun _ _ valid => Tfdt.read_reads valid) Tfdt.yields

namespace Trun

theorem readOffset_yields (version : UInt8) :
    Yields (readOffset version) (Representable version) := by
  unfold readOffset Representable
  refine .ite (fun signed => .bind fun number => .pure ?_)
    fun unsigned => .bind fun number => .pure ?_
  · rw [if_pos signed, Int32.toInt32_toInt64]
  · rw [if_neg unsigned, UInt64.toUInt64_toInt64, UInt32.toUInt32_toUInt64]

/-- The offset of the sample is what the field that the version selects can hold. -/
def Stored (version : UInt8) (sample : TrunSample) : Prop :=
  ∀ offset, sample.compositionTimeOffset = some offset → Representable version offset

theorem readSample_yields (header : FullBoxHeader) :
    Yields (readSample header) (Stored header.version) := by
  refine .bind fun duration => .bind fun size => .bind fun flags => ?_
  exact (readOffset_yields header.version).optionally.after fun offset stored => .pure stored

instance : Recovers Trun where
  Fits trun := trun.header.header = ⟨name⟩ ∧ trun.samples.length < 2 ^ 32 ∧
    ∀ sample ∈ trun.samples, Stored trun.header.version sample
  Lossy _ := False
  demux_eq _ trun _ fits valid written :=
    parse_headed _ fits.1 written fun small =>
      read_reads (validate_eq_ok.mp valid) small fits.2.1 fits.2.2
  fits _ _ trun read _ _ := by
    have yields : Yields (Trun.read .unlimited ⟨name⟩) fun trun => trun.header.header = ⟨name⟩ ∧
        trun.samples.length < 2 ^ 32 ∧
        ∀ sample ∈ trun.samples, Stored trun.header.version sample := by
      refine (FullBoxHeader.yields _).after fun full named => ?_
      refine .bind fun count => .bind fun dataOffset => .bind fun firstSampleFlags => ?_
      refine .bind fun _ => ?_
      refine ((readSample_yields full).repeated count.toNat).after fun samples each => .pure ?_
      exact ⟨named, each.1.trans_lt count.toNat_lt, each.2⟩
    exact yields.parse read

end Trun

/-- The chunks of the media are read as one. -/
instance : Recovers Mdat where
  Fits mdat := mdat.header = ⟨Mdat.name⟩ ∧ ∃ data, mdat.data = [data]
  Lossy _ := False
  demux_eq _ mdat payload fits _ written := by
    obtain ⟨header, chunks⟩ := mdat
    obtain ⟨named, data, single⟩ := fits
    cases single
    cases written
    cases named
    change Except.ok (⟨_, [[data].flatten]⟩ : Mdat) = _
    rw [List.flatten_singleton]
    rfl
  fits _ data mdat read _ _ := by
    cases read
    exact ⟨rfl, data, rfl⟩

/-! ## Sample groups and subsamples -/

namespace Sbgp

theorem readEntry_reads (entry : SbgpEntry) : Reads readEntry (entryBytes entry) entry :=
  (Reads.readU32 entry.sampleCount).bind
    ((Reads.readU32 entry.groupDescriptionIndex).finish (Reads.pure entry))

/-- The grouping type is there exactly in version 1. -/
theorem grouping_of_valid {sbgp : Sbgp} (valid : sbgp.validate = .ok ()) :
    (sbgp.header.version == 1) = sbgp.groupingType.isSome := by
  simp only [validate, andThen_eq_ok, refuse_eq_ok, decide_eq_false_iff_not, UInt8.not_lt] at valid
  obtain ⟨supported, _, missing, surplus⟩ := valid
  by_cases one : sbgp.header.version = 1
  · rw [one] at missing ⊢
    cases found : sbgp.groupingType <;> simp [found] at missing ⊢
  · rw [Tfdt.version_eq_zero supported one] at surplus ⊢
    cases found : sbgp.groupingType <;> simp [found] at surplus ⊢

instance : Recovers Sbgp where
  Fits sbgp := sbgp.header.header = ⟨name⟩ ∧ sbgp.entries.length < 2 ^ 32
  Lossy _ := False
  demux_eq _ sbgp payload fits valid written := by
    have headed : (do
        let first ← sbgp.header.mux
        return first ++ (optional beU32 sbgp.groupingType ++
          (beU32 (UInt32.ofNat sbgp.entries.length) ++ sbgp.entries.flatMap entryBytes))) =
        .ok payload := by
      simp only [← List.append_assoc]
      exact written
    refine parse_headed (Sbgp.read .unlimited) fits.1 headed fun small => ?_
    have count : (UInt32.ofNat sbgp.entries.length).toNat = sbgp.entries.length :=
      UInt32.toNat_ofNat_of_lt' fits.2
    apply (FullBoxHeader.demux_reads small).bind
    apply (Reads.optionally (grouping_of_valid valid) fun number _ => Reads.readU32 number).bind
    apply (Reads.readU32 _).bind
    apply (allocate_reads _ _).bind
    rw [count]
    apply (Reads.repeated fun entry _ => readEntry_reads entry).finish
    exact Reads.pure sbgp
  fits _ _ sbgp read _ _ := by
    have yields : Yields (Sbgp.read .unlimited ⟨name⟩) fun sbgp => sbgp.header.header = ⟨name⟩ ∧
        sbgp.entries.length < 2 ^ 32 := by
      refine (FullBoxHeader.yields _).after fun full named => .bind fun grouping => ?_
      refine .bind fun count => .bind fun _ => ?_
      refine ((Yields.any readEntry).repeated count.toNat).after fun entries each => .pure ?_
      exact ⟨named, each.1.trans_lt count.toNat_lt⟩
    exact yields.parse read

end Sbgp

namespace Subs

/-- The count of the subsamples holds their number. -/
def Countable (entry : SubsEntry) : Prop := entry.subsamples.length < 2 ^ 16

/-- The size of a subsample has 16 bits but in version 1. -/
theorem small_of_valid {subs : Subs} (valid : subs.validate = .ok ())
    (short : subs.header.version ≠ 1) {entry : SubsEntry} (member : entry ∈ subs.entries)
    {subsample : SubSampleEntry} (inside : subsample ∈ entry.subsamples) :
    subsample.subsampleSize.toNat < 2 ^ 16 := by
  simp only [validate, andThen_eq_ok, refuse_eq_ok, decide_eq_false_iff_not, UInt8.not_lt] at valid
  obtain ⟨supported, sizes⟩ := valid
  rw [Tfdt.version_eq_zero supported short, Bool.and_eq_false_imp] at sizes
  have entries := List.any_eq_false.mp (sizes rfl) entry member
  have within := List.any_eq_false.mp (Bool.eq_false_iff.mpr entries) subsample inside
  rw [decide_eq_true_eq, UInt32.not_lt, UInt32.le_iff_toNat_le] at within
  exact Nat.lt_succ_of_le within

theorem readSubsample_reads {version : UInt8} {subsample : SubSampleEntry}
    (small : version ≠ 1 → subsample.subsampleSize.toNat < 2 ^ 16) :
    Reads (readSubsample version) (subsampleBytes version subsample) subsample := by
  have size : Reads (readSubsampleSize version)
      (if version = 1 then beU32 subsample.subsampleSize
        else toBytesBE 2 subsample.subsampleSize.toUInt16.toNat) subsample.subsampleSize := by
    unfold readSubsampleSize
    split
    · exact Reads.readU32 subsample.subsampleSize
    · rename_i short
      have field := (Reads.readU16 (ε := IoFault) subsample.subsampleSize.toUInt16).map
        UInt16.toUInt32
      have same : subsample.subsampleSize.toUInt16.toUInt32 = subsample.subsampleSize := by
        rw [← UInt32.toNat_inj, UInt16.toNat_toUInt32, UInt32.toNat_toUInt16]
        exact Nat.mod_eq_of_lt (small short)
      rw [same] at field
      exact field
  unfold subsampleBytes
  rw [List.append_assoc]
  apply size.bind
  apply (Reads.readU8 subsample.subsamplePriority).bind
  apply (Reads.readU8 subsample.discardable).bind
  apply (Reads.readU32 subsample.codecSpecificParameters).finish
  exact Reads.pure subsample

theorem readEntry_reads {version : UInt8} {entry : SubsEntry} (countable : Countable entry)
    (small : ∀ subsample ∈ entry.subsamples,
      version ≠ 1 → subsample.subsampleSize.toNat < 2 ^ 16) :
    Reads (readEntry version) (entryBytes version entry) entry := by
  have count : (UInt16.ofNat entry.subsamples.length).toNat = entry.subsamples.length :=
    UInt16.toNat_ofNat_of_lt' countable
  unfold entryBytes
  rw [List.append_assoc]
  apply (Reads.readU32 entry.sampleDelta).bind
  apply (Reads.readU16 (UInt16.ofNat entry.subsamples.length)).bind
  rw [count]
  apply (Reads.repeated fun subsample inside =>
    readSubsample_reads (small subsample inside)).finish
  exact Reads.pure entry

theorem readEntry_yields (version : UInt8) : Yields (readEntry version) Countable := by
  refine .bind fun delta => .bind fun count => ?_
  refine ((Yields.any (readSubsample version)).repeated count.toNat).after fun found each => .pure ?_
  exact each.1.trans_lt count.toNat_lt

instance : Recovers Subs where
  Fits subs := subs.header.header = ⟨name⟩ ∧ subs.entries.length < 2 ^ 32 ∧
    ∀ entry ∈ subs.entries, Countable entry
  Lossy _ := False
  demux_eq _ subs payload fits valid written := by
    have headed : (do
        let first ← subs.header.mux
        return first ++ (beU32 (UInt32.ofNat subs.entries.length) ++
          subs.entries.flatMap (entryBytes subs.header.version))) = .ok payload := by
      simp only [← List.append_assoc]
      exact written
    refine parse_headed (Subs.read .unlimited) fits.1 headed fun small => ?_
    have count : (UInt32.ofNat subs.entries.length).toNat = subs.entries.length :=
      UInt32.toNat_ofNat_of_lt' fits.2.1
    apply (FullBoxHeader.demux_reads small).bind
    apply (Reads.readU32 _).bind
    apply (allocate_reads _ _).bind
    rw [count]
    apply (Reads.repeated fun entry member => readEntry_reads (fits.2.2 entry member)
      fun subsample inside short => small_of_valid valid short member inside).finish
    exact Reads.pure subs
  fits _ _ subs read _ _ := by
    have yields : Yields (Subs.read .unlimited ⟨name⟩) fun subs => subs.header.header = ⟨name⟩ ∧
        subs.entries.length < 2 ^ 32 ∧ ∀ entry ∈ subs.entries, Countable entry := by
      refine (FullBoxHeader.yields _).after fun full named => .bind fun count => .bind fun _ => ?_
      refine ((readEntry_yields full.version).repeated count.toNat).after fun entries each => ?_
      exact .pure ⟨named, each.1.trans_lt count.toNat_lt, each.2⟩
    exact yields.parse read

end Subs

/-! ## File types -/

namespace Ftyp

/-- A brand that is not spelled out although it has a constructor of its own. -/
def FourCC.Canonical (brand : FourCC) : Prop := ofBytes brand.toBytes = brand

theorem FourCC.canonical_ofBytes (bytes : Wire.FourCC) : (ofBytes bytes).Canonical := by
  unfold Canonical
  by_cases known : ∃ brand ∈ [FourCC.iso5, .iso6, .mp41, .avc1, .av01, .hev1],
      bytes = brand.toBytes
  · obtain ⟨brand, member, rfl⟩ := known
    simp only [List.mem_cons, List.not_mem_nil, or_false] at member
    rcases member with rfl | rfl | rfl | rfl | rfl | rfl <;> rfl
  · have apart : ofBytes bytes = .unknown bytes := by
      unfold ofBytes
      simp only [List.mem_cons, List.not_mem_nil, or_false, exists_eq_or_imp, exists_eq_left,
        not_or] at known
      obtain ⟨iso5, iso6, mp41, avc1, av01, hev1⟩ := known
      rw [if_neg iso5, if_neg iso6, if_neg mp41, if_neg avc1, if_neg av01, if_neg hev1]
    rw [apart]
    exact apart

theorem readBrands_canonical (data : Bytes) : ∀ brand ∈ readBrands data, brand.Canonical := by
  induction data using readBrands.induct with
  | case1 first second third fourth rest ih =>
      rw [readBrands, List.forall_mem_cons]
      exact ⟨FourCC.canonical_ofBytes _, ih⟩
  | case2 data short =>
      rw [readBrands.eq_2 data short]
      exact List.forall_mem_nil _

theorem readBrands_flatMap {brands : List FourCC} (canonical : ∀ brand ∈ brands, brand.Canonical) :
    readBrands (brands.flatMap fun brand => brand.toBytes.bytes) = brands := by
  induction brands with
  | nil => rfl
  | cons brand brands ih =>
      obtain ⟨first, others⟩ := List.forall_mem_cons.mp canonical
      rw [List.flatMap_cons]
      change FourCC.ofBytes brand.toBytes ::
        readBrands (brands.flatMap fun brand => brand.toBytes.bytes) = _
      rw [first, ih others]

instance : Recovers Ftyp where
  Fits ftyp := ftyp.header = ⟨name⟩ ∧ ftyp.majorBrand.Canonical ∧
    ∀ brand ∈ ftyp.compatibleBrands, brand.Canonical
  Lossy _ := False
  demux_eq _ ftyp _ fits _ written := by
    cases written
    obtain ⟨named, major, brands⟩ := fits
    obtain ⟨version, digits⟩ : ∃ version, beU32 ftyp.minorVersion = version := ⟨_, rfl⟩
    have four : version.length = 4 := by rw [← digits, length_beU32]
    obtain ⟨first, second, third, fourth, rfl⟩ : ∃ first second third fourth,
        version = [first, second, third, fourth] := by
      match version, four with
      | [first, second, third, fourth], _ => exact ⟨first, second, third, fourth, rfl⟩
    have number : UInt32.ofNat (ofBytesBE [first, second, third, fourth]) = ftyp.minorVersion := by
      have small : ftyp.minorVersion.toNat < 256 ^ 4 := ftyp.minorVersion.toNat_lt
      rw [← digits, beU32, ofBytesBE_toBytesBE, Nat.mod_eq_of_lt small, UInt32.ofNat_toNat]
    change Ftyp.demux ⟨name⟩ ftyp.payload = .ok ftyp
    rw [payload, digits]
    change Except.ok (⟨⟨name⟩, FourCC.ofBytes ftyp.majorBrand.toBytes,
      UInt32.ofNat (ofBytesBE [first, second, third, fourth]),
      readBrands (ftyp.compatibleBrands.flatMap fun brand => brand.toBytes.bytes)⟩ : Ftyp) = _
    rw [major, number, readBrands_flatMap brands, ← named]
  fits _ data ftyp read _ _ := by
    change Ftyp.demux ⟨name⟩ data = .ok ftyp at read
    unfold Ftyp.demux at read
    split at read
    · cases read
      exact ⟨rfl, FourCC.canonical_ofBytes _, readBrands_canonical _⟩
    · cases read

end Ftyp

/-! ## Texts -/

namespace HandlerType

theorem canonical_ofBytes (bytes : FourCC) : (ofBytes bytes).Canonical := by
  unfold ofBytes
  split_ifs with vide soun hint metadata
  · trivial
  · trivial
  · trivial
  · trivial
  · exact ⟨vide, soun, hint, metadata⟩

end HandlerType

/-- A text of which each character is written and read as one byte. -/
def Ascii (text : String) : Prop := ∀ char ∈ text.toList, char.toNat < 128

/-- A text that can stand before the zero byte that ends it. -/
def Terminable (text : String) : Prop := ∀ char ∈ text.toList, char.toNat ≠ 0

namespace Hdlr

instance : Recovers Hdlr where
  Fits hdlr := hdlr.header.header = ⟨fourCC⟩ ∧ hdlr.handlerType.Canonical ∧
    Terminable hdlr.name ∧ Ascii hdlr.name
  Lossy hdlr := ¬Ascii hdlr.name
  demux_eq _ hdlr _ fits valid written := by
    obtain ⟨named, canonical, terminable, ascii⟩ := fits
    refine parse_headed _ named written fun _ => ?_
    have read := read_reads (flags_of_valid valid) terminable hdlr.header.header
    rw [(HandlerType.ofBytes_toBytes_iff _).mpr canonical,
      (ofByteChars_asBytes_iff _).mpr ascii] at read
    exact read
  fits _ _ hdlr read _ exactly := by
    have yields : Yields (Hdlr.read ⟨fourCC⟩) fun hdlr => hdlr.header.header = ⟨fourCC⟩ ∧
        hdlr.handlerType.Canonical ∧ Terminable hdlr.name := by
      refine (FullBoxHeader.yields _).after fun full named => .bind fun _ => ?_
      refine .bind fun code => .bind fun _ => Yields.readTerminated.after fun text free => ?_
      exact .pure ⟨named, HandlerType.canonical_ofBytes code, free⟩
    obtain ⟨named, canonical, terminable⟩ := yields.parse read
    exact ⟨named, canonical, terminable, not_not.mp exactly⟩

end Hdlr

namespace Url

instance : Recovers Url where
  Fits url := url.header.header = ⟨name⟩ ∧
    ∀ location, url.location = some location → Terminable location ∧ Ascii location
  Lossy url := ∃ location, url.location = some location ∧ ¬Ascii location
  demux_eq _ url _ fits valid written := by
    refine parse_headed _ fits.1 written fun small => ?_
    have read := read_reads valid small (fun location found => (fits.2 location found).1)
      url.header.header
    have same : url.location.map (fun location => ofByteChars (asBytes location)) =
        url.location := by
      cases found : url.location with
      | none => rfl
      | some location =>
          rw [Option.map_some, (ofByteChars_asBytes_iff _).mpr (fits.2 location found).2]
    rw [same] at read
    exact read
  fits _ _ url read _ exactly := by
    have yields : Yields (Url.read ⟨name⟩) fun url => url.header.header = ⟨name⟩ ∧
        ∀ location, url.location = some location → Terminable location :=
      (FullBoxHeader.yields _).after fun _ named =>
        Yields.readTerminated.optionally.after fun _ free => .pure ⟨named, free⟩
    obtain ⟨named, terminable⟩ := yields.parse read
    exact ⟨named, fun location found =>
      ⟨terminable location found, not_not.mp (not_and.mp (not_exists.mp exactly location) found)⟩⟩

end Url

end ScuffleVideo.Mp4
