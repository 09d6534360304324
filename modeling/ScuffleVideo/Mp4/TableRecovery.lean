import ScuffleVideo.Mp4.Recovery

/-!
# Sample tables that come back

The tables of counted entries share one argument: the count tells the number of entries,
and each entry is read as it was written.  The lists that end with the payload and the
packed tables follow on their own.
-/

namespace ScuffleVideo.Mp4

open Wire Wire.Reader

/-! ## Counted entries -/

/-- The count of a table tells the number of its entries. -/
theorem readTable_yields {α : Type} {readEntry : FullBoxHeader → Reader IoFault α}
    {holds : FullBoxHeader → α → Prop} (each : ∀ full, Yields (readEntry full) (holds full))
    (memory : Memory) (header : BoxHeader) :
    Yields (readTable memory header readEntry) fun table => table.1.header = header ∧
      table.2.length < 2 ^ 32 ∧ ∀ entry ∈ table.2, holds table.1 entry := by
  refine (FullBoxHeader.yields header).after fun full named => .bind fun count => ?_
  refine .bind fun _ => ?_
  refine ((each full).repeated count.toNat).after fun entries counted => .pure ?_
  exact ⟨named, counted.1.trans_lt count.toNat_lt, counted.2⟩

/-- Tables that come back whenever their header is of their type, their number of entries
fits its field and each of the entries holds what its own fields can. -/
@[reducible]
def Recovers.ofTable {α β : Type} [BoxType β] {build : FullBoxHeader → List α → β}
    (header : β → FullBoxHeader) (entries : β → List α)
    (readEntry : FullBoxHeader → Reader IoFault α) (entryBytes : FullBoxHeader → α → Bytes)
    (holds : FullBoxHeader → α → Prop)
    (built : ∀ box, build (header box) (entries box) = box)
    (unbuilt : ∀ full values, header (build full values) = full ∧
      entries (build full values) = values)
    (demuxed : ∀ (checks : OverflowChecks) head data, BoxType.demux checks head data =
      Reader.parse (do
        return (fun table => build table.1 table.2) (← readTable .unlimited head readEntry)) data)
    (muxed : ∀ box, BoxType.primitiveMux box =
      muxTable (header box) (entryBytes (header box)) (entries box))
    (reads : ∀ box, BoxType.validate box = .ok () → ∀ entry ∈ entries box,
      holds (header box) entry →
        Reads (readEntry (header box)) (entryBytes (header box) entry) entry)
    (yields : ∀ full, Yields (readEntry full) (holds full)) :
    Recovers β where
  Fits box := (header box).header = ⟨BoxType.name β⟩ ∧ (entries box).length < 2 ^ 32 ∧
    ∀ entry ∈ entries box, holds (header box) entry
  Lossy _ := False
  demux_eq checks box payload fits valid written := by
    obtain ⟨named, few, held⟩ := fits
    rw [muxed] at written
    rw [demuxed]
    refine parse_headed (fun head => do
        return (fun table => build table.1 table.2) (← readTable .unlimited head readEntry))
      named written fun small => ?_
    have table := (readTable_reads small few fun entry member =>
      reads box valid entry member (held entry member)).map fun table => build table.1 table.2
    rw [built] at table
    exact table
  fits checks data box read _ _ := by
    rw [demuxed] at read
    have all : Yields _ fun box : β => (header box).header = ⟨BoxType.name β⟩ ∧
        (entries box).length < 2 ^ 32 ∧ ∀ entry ∈ entries box, holds (header box) entry :=
      (readTable_yields yields .unlimited ⟨BoxType.name β⟩).after fun table held => .pure (by
        rw [(unbuilt _ _).1, (unbuilt _ _).2]
        exact held)
    exact all.parse read

theorem Stts.readEntry_reads (entry : SttsEntry) : Reads readEntry (entryBytes entry) entry :=
  (Reads.readU32 entry.sampleCount).bind
    ((Reads.readU32 entry.sampleDelta).finish (Reads.pure entry))

instance : Recovers Stts :=
  @Recovers.ofTable SttsEntry _ _ Stts.mk Stts.header Stts.entries (fun _ => Stts.readEntry)
    (fun _ => Stts.entryBytes) (fun _ _ => True) (fun _ => rfl) (fun _ _ => ⟨rfl, rfl⟩)
    (fun _ _ _ => rfl) (fun _ => rfl) (fun _ _ entry _ _ => Stts.readEntry_reads entry)
    fun _ => Yields.any _

namespace Ctts

/-- The field that the version selects can hold the offset. -/
def Stored (header : FullBoxHeader) (entry : CttsEntry) : Prop :=
  Trun.Representable header.version entry.sampleOffset

theorem readEntry_reads {header : FullBoxHeader} {entry : CttsEntry}
    (stored : Stored header entry) :
    Reads (readEntry header) (entryBytes header.version entry) entry :=
  (Reads.readU32 entry.sampleCount).bind
    ((Trun.readOffset_reads stored).finish (Reads.pure entry))

theorem readEntry_yields (header : FullBoxHeader) : Yields (readEntry header) (Stored header) :=
  .bind fun _ => (Trun.readOffset_yields header.version).after fun _ stored => .pure stored

instance : Recovers Ctts :=
  @Recovers.ofTable CttsEntry _ _ Ctts.mk Ctts.header Ctts.entries readEntry
    (fun full => entryBytes full.version) Stored (fun _ => rfl) (fun _ _ => ⟨rfl, rfl⟩)
    (fun _ _ _ => rfl) (fun _ => rfl) (fun _ _ _ _ stored => readEntry_reads stored)
    readEntry_yields

end Ctts

theorem Stsc.readEntry_reads (entry : StscEntry) : Reads readEntry (entryBytes entry) entry := by
  unfold entryBytes
  rw [List.append_assoc]
  apply (Reads.readU32 entry.firstChunk).bind
  apply (Reads.readU32 entry.samplesPerChunk).bind
  apply (Reads.readU32 entry.sampleDescriptionIndex).finish
  exact Reads.pure entry

instance : Recovers Stsc :=
  @Recovers.ofTable StscEntry _ _ Stsc.mk Stsc.header Stsc.entries (fun _ => Stsc.readEntry)
    (fun _ => Stsc.entryBytes) (fun _ _ => True) (fun _ => rfl) (fun _ _ => ⟨rfl, rfl⟩)
    (fun _ _ _ => rfl) (fun _ => rfl) (fun _ _ entry _ _ => Stsc.readEntry_reads entry)
    fun _ => Yields.any _

instance : Recovers Stco :=
  @Recovers.ofTable UInt32 _ _ Stco.mk Stco.header Stco.entries (fun _ => readU32)
    (fun _ => beU32) (fun _ _ => True) (fun _ => rfl) (fun _ _ => ⟨rfl, rfl⟩)
    (fun _ _ _ => rfl) (fun _ => rfl) (fun _ _ entry _ _ => Reads.readU32 entry)
    fun _ => Yields.any _

instance : Recovers Co64 :=
  @Recovers.ofTable UInt32 _ _ Co64.mk Co64.header Co64.chunkOffset (fun _ => readU32)
    (fun _ => beU32) (fun _ _ => True) (fun _ => rfl) (fun _ _ => ⟨rfl, rfl⟩)
    (fun _ _ _ => rfl) (fun _ => rfl) (fun _ _ entry _ _ => Reads.readU32 entry)
    fun _ => Yields.any _

instance : Recovers Stss :=
  @Recovers.ofTable UInt32 _ _ Stss.mk Stss.header Stss.entries (fun _ => readU32)
    (fun _ => beU32) (fun _ _ => True) (fun _ => rfl) (fun _ _ => ⟨rfl, rfl⟩)
    (fun _ _ _ => rfl) (fun _ => rfl) (fun _ _ entry _ _ => Reads.readU32 entry)
    fun _ => Yields.any _

theorem Stsh.readEntry_reads (entry : StshEntry) : Reads readEntry (entryBytes entry) entry :=
  (Reads.readU32 entry.shadowedSampleCount).bind
    ((Reads.readU32 entry.syncSampleNumber).finish (Reads.pure entry))

instance : Recovers Stsh :=
  @Recovers.ofTable StshEntry _ _ Stsh.mk Stsh.header Stsh.entries (fun _ => Stsh.readEntry)
    (fun _ => Stsh.entryBytes) (fun _ _ => True) (fun _ => rfl) (fun _ _ => ⟨rfl, rfl⟩)
    (fun _ _ _ => rfl) (fun _ => rfl) (fun _ _ entry _ _ => Stsh.readEntry_reads entry)
    fun _ => Yields.any _

namespace Elst

open Tfdt (readTime version_eq_zero)

theorem supported_of_valid {elst : Elst} (valid : elst.validate = .ok ()) :
    elst.header.version = 0 ∨ elst.header.version = 1 := by
  simp only [validate, andThen_eq_ok, refuse_eq_ok, decide_eq_false_iff_not, UInt8.not_lt] at valid
  by_cases one : elst.header.version = 1
  · exact .inr one
  · exact .inl (version_eq_zero valid.2.1 one)

theorem readEntry_yields (header : FullBoxHeader) :
    Yields (readEntry header) (Holds header.version) := by
  have duration : Yields (readTime header.version)
      fun time => header.version = 0 → time.toNat < 2 ^ 32 := by
    refine .ite (fun one => ?_) fun _ => .bind fun number => .pure fun _ => ?_
    · refine (Yields.any _).weaken fun time _ zero => ?_
      rw [one] at zero
      cases zero
    · rw [UInt32.toNat_toUInt64]
      exact number.toNat_lt
  have mediaTime : Yields (readMediaTime header.version) fun time => header.version = 0 →
      Int32.minValue.toInt64 ≤ time ∧ time ≤ Int32.maxValue.toInt64 := by
    refine .ite (fun one => ?_) fun _ => .bind fun number => .pure fun _ => ?_
    · refine (Yields.any _).weaken fun time _ zero => ?_
      rw [one] at zero
      cases zero
    · exact (signed_eq_iff _).mp (by rw [Int32.toInt32_toInt64])
  refine duration.after fun segmentDuration small => mediaTime.after fun time inside => ?_
  exact .bind fun _ => .bind fun _ => .pure fun zero => ⟨small zero, inside zero⟩

instance : Recovers Elst :=
  @Recovers.ofTable ElstEntry _ _ Elst.mk Elst.header Elst.entries readEntry
    (fun full => entryBytes full.version) (fun full => Holds full.version) (fun _ => rfl)
    (fun _ _ => ⟨rfl, rfl⟩) (fun _ _ _ => rfl) (fun _ => rfl)
    (fun _ valid _ _ holds => readEntry_reads (supported_of_valid valid) holds) readEntry_yields

end Elst

/-! ## Packed tables -/

namespace Stsz

instance : Recovers Stsz where
  Fits stsz := stsz.header.header = ⟨name⟩ ∧ stsz.samples.length < 2 ^ 32
  Lossy _ := False
  demux_eq _ stsz _ fits valid written := by
    refine parse_headed _ fits.1 written fun _ => ?_
    exact read_reads valid fits.2 stsz.header.header
  fits _ _ stsz read _ _ := by
    obtain ⟨named, length, bound⟩ := of_demux read
    refine ⟨named, ?_⟩
    rw [length]
    split <;> omega

end Stsz

namespace Stz2

instance : Recovers Stz2 where
  Fits stz2 := stz2.header.header = ⟨name⟩ ∧ stz2.samples.length < 2 ^ 32
  Lossy _ := False
  demux_eq _ stz2 _ fits valid written := by
    have read := (read_reads valid written fits.2).parse
    rw [fits.1] at read
    exact read
  fits _ _ stz2 read _ _ := by
    have yields : Yields (Stz2.read .unlimited ⟨name⟩) fun stz2 => stz2.header.header = ⟨name⟩ := by
      refine (FullBoxHeader.yields _).after fun full named => ?_
      iterate 5 refine .bind fun _ => ?_
      exact .pure named
    exact ⟨yields.parse read, length_of_demux read⟩

end Stz2

namespace Padb

/-- The count of a table without samples wraps around, and so does that of a very long one. -/
instance : Recovers Padb where
  Fits padb := padb.header.header = ⟨name⟩ ∧ 0 < padb.samples.length ∧
    padb.samples.length < 2 ^ 31
  Lossy padb := ¬(0 < padb.samples.length ∧ padb.samples.length < 2 ^ 31)
  demux_eq _ padb payload fits valid written := by
    have plain := (FullBoxHeader.checkPlain_eq_ok.mp valid).2
    have small : padb.header.flags.toNat < 2 ^ 24 := by
      rw [plain]
      decide
    have same : payload = padb.payload := by
      change padb.muxChecked .off = .ok payload at written
      rw [muxChecked, FullBoxHeader.mux_eq_ok small] at written
      exact (Except.ok.inj written).symm
    have read := (read_reads plain fits.2.1 fits.2.2 padb.header.header).parse
    rw [same]
    change (Padb.read .unlimited ⟨name⟩).parse _ = _
    rw [← fits.1]
    exact read
  fits _ _ padb read _ exactly := by
    have yields : Yields (Padb.read .unlimited ⟨name⟩) fun padb => padb.header.header = ⟨name⟩ := by
      refine (FullBoxHeader.yields _).after fun full named => ?_
      iterate 3 refine .bind fun _ => ?_
      exact .pure named
    exact ⟨yields.parse read, not_not.mp exactly⟩

end Padb

/-! ## Lists that end with the payload -/

namespace Stdp

/-- Half as many samples as bytes are left. -/
theorem readSamples_last (header : FullBoxHeader) (samples : List UInt16) :
    ReadsLast (do
      let left ← remaining
      let samples ← repeated (readU16 : Reader IoFault UInt16) (left / 2)
      return (⟨header, samples⟩ : Stdp)) (samples.flatMap beU16) ⟨header, samples⟩ := by
  intro before
  have length := length_flatMap_const length_beU16 samples
  have left : (remaining : Reader IoFault Nat) (before ++ samples.flatMap beU16) before.length =
      .ok (samples.length * 2, before.length) := by
    unfold remaining
    rw [List.length_append, Nat.add_sub_cancel_left, length]
  have each := Reads.repeated (ε := IoFault) fun sample (_ : sample ∈ samples) =>
    Reads.readU16 sample
  have read := each.map (fun samples => (⟨header, samples⟩ : Stdp)) before []
  rw [List.append_nil] at read
  rw [bind_ok left, Nat.mul_div_cancel _ (by decide)]
  exact read

instance : Recovers Stdp where
  Fits stdp := stdp.header.header = ⟨name⟩
  Lossy _ := False
  demux_eq _ stdp payload fits _ written := by
    have small := FullBoxHeader.small_of_headed written
    change stdp.primitiveMux = _ at written
    rw [primitiveMux, FullBoxHeader.mux_eq_ok small] at written
    cases written
    change (read ⟨name⟩).parse _ = _
    rw [← fits]
    apply ReadsLast.parse
    exact (FullBoxHeader.demux_reads small).bindLast (readSamples_last stdp.header stdp.samples)
  fits _ _ stdp read _ _ := by
    have yields : Yields (Stdp.read ⟨name⟩) fun stdp => stdp.header.header = ⟨name⟩ := by
      refine (FullBoxHeader.yields _).after fun full named => ?_
      iterate 2 refine .bind fun _ => ?_
      exact .pure named
    exact yields.parse read

end Stdp

namespace Sdtp

/-- Each field is within its two bits. -/
structure Narrow (entry : SdtpEntry) : Prop where
  isLeading : entry.sampleIsLeading.toNat < 4
  dependsOn : entry.sampleDependsOn.toNat < 4
  isDependedOn : entry.sampleIsDependedOn.toNat < 4
  hasRedundancy : entry.sampleHasRedundancy.toNat < 4

theorem ofByte_entryByte {entry : SdtpEntry} (narrow : Narrow entry) :
    ofByte (entryByte entry) = entry := by
  have table : ∀ leading depends depended redundant : Fin 4,
      ofByte (entryByte ⟨UInt8.ofNat leading, UInt8.ofNat depends, UInt8.ofNat depended,
        UInt8.ofNat redundant⟩) =
        ⟨UInt8.ofNat leading, UInt8.ofNat depends, UInt8.ofNat depended,
          UInt8.ofNat redundant⟩ := by decide +kernel
  have same := table ⟨_, narrow.isLeading⟩ ⟨_, narrow.dependsOn⟩ ⟨_, narrow.isDependedOn⟩
    ⟨_, narrow.hasRedundancy⟩
  simpa only [UInt8.ofNat_toNat] using same

theorem narrow_ofByte (byte : UInt8) : Narrow (ofByte byte) := by
  have table : ∀ number : Fin 256, Narrow (ofByte (UInt8.ofNat number)) := by
    have fields : ∀ number : Fin 256,
        (ofByte (UInt8.ofNat number)).sampleIsLeading.toNat < 4 ∧
        (ofByte (UInt8.ofNat number)).sampleDependsOn.toNat < 4 ∧
        (ofByte (UInt8.ofNat number)).sampleIsDependedOn.toNat < 4 ∧
        (ofByte (UInt8.ofNat number)).sampleHasRedundancy.toNat < 4 := by decide +kernel
    intro number
    obtain ⟨leading, depends, depended, redundant⟩ := fields number
    exact ⟨leading, depends, depended, redundant⟩
  have same := table ⟨byte.toNat, byte.toNat_lt⟩
  rwa [UInt8.ofNat_toNat] at same

instance : Recovers Sdtp where
  Fits sdtp := sdtp.header.header = ⟨name⟩ ∧ ∀ entry ∈ sdtp.entries, Narrow entry
  Lossy _ := False
  demux_eq _ sdtp payload fits _ written := by
    have small := FullBoxHeader.small_of_headed written
    change sdtp.primitiveMux = _ at written
    rw [primitiveMux, FullBoxHeader.mux_eq_ok small] at written
    cases written
    have entries : (sdtp.entries.map entryByte).map ofByte = sdtp.entries := by
      rw [List.map_map]
      exact map_eq_self_iff.mpr fun entry member => ofByte_entryByte (fits.2 entry member)
    have read := (ReadsLast.extractRemaining (ε := IoFault) (sdtp.entries.map entryByte)).map
      fun bytes => (⟨sdtp.header, bytes.map ofByte⟩ : Sdtp)
    rw [entries] at read
    change (Sdtp.read ⟨name⟩).parse _ = _
    rw [← fits.1]
    apply ReadsLast.parse
    exact (FullBoxHeader.demux_reads small).bindLast read
  fits _ _ sdtp read _ _ := by
    have yields : Yields (Sdtp.read ⟨name⟩) fun sdtp => sdtp.header.header = ⟨name⟩ ∧
        ∀ entry ∈ sdtp.entries, Narrow entry := by
      refine (FullBoxHeader.yields _).after fun full named => .bind fun bytes => .pure ⟨named, ?_⟩
      intro entry member
      obtain ⟨byte, _, rfl⟩ := List.mem_map.mp member
      exact narrow_ofByte byte
    exact yields.parse read

end Sdtp

end ScuffleVideo.Mp4
