import ScuffleVideo.Mp4.FragmentRoundTrip

/-!
# Composition offsets in 32 bits

Track runs and composition tables hold their offsets in 64 bits and write them in
32, signed in version 1 and unsigned otherwise.  What is written is the offset cut
to its field, so a box comes back as it was exactly when cutting changes none of
its offsets.
-/

namespace ScuffleVideo.Mp4

open Wire Wire.Reader

/-! ## Cutting an offset -/

/-- What is left of an offset in the field that the version selects. -/
def storedOffset (version : UInt8) (offset : Int64) : Int64 :=
  if version = 1 then offset.toInt32.toInt64 else offset.toUInt64.toUInt32.toUInt64.toInt64

/-- The field that the version selects can hold the offset. -/
def InRange (version : UInt8) (offset : Int64) : Prop :=
  if version = 1 then Int32.minValue.toInt64 ≤ offset ∧ offset ≤ Int32.maxValue.toInt64
  else 0 ≤ offset ∧ offset ≤ 0xFFFFFFFF

theorem toInt_toInt64 (number : UInt64) :
    number.toInt64.toInt = (number.toNat : Int).bmod (2 ^ 64) :=
  BitVec.toInt_eq_toNat_bmod number.toBitVec

theorem toInt_unsigned (offset : Int64) :
    offset.toUInt64.toUInt32.toUInt64.toInt64.toInt = offset.toInt % 2 ^ 32 := by
  have bits := toInt_toInt64 offset.toUInt64
  rw [Int64.toInt64_toUInt64] at bits
  have stored := toInt_toInt64 offset.toUInt64.toUInt32.toUInt64
  rw [UInt32.toNat_toUInt64, UInt64.toNat_toUInt32] at stored
  have small := offset.toUInt64.toNat_lt
  rw [stored, bits]
  simp only [Int.bmod]
  omega

theorem signed_eq_iff (offset : Int64) :
    offset.toInt32.toInt64 = offset ↔
      Int32.minValue.toInt64 ≤ offset ∧ offset ≤ Int32.maxValue.toInt64 := by
  have low : Int32.minValue.toInt64.toInt = -2 ^ 31 := by decide
  have high : Int32.maxValue.toInt64.toInt = 2 ^ 31 - 1 := by decide
  rw [← Int64.toInt_inj, Int32.toInt_toInt64, Int64.toInt_toInt32, Int64.le_iff_toInt_le,
    Int64.le_iff_toInt_le, low, high, Int.bmod_eq_iff (by decide)]
  omega

theorem unsigned_eq_iff (offset : Int64) :
    offset.toUInt64.toUInt32.toUInt64.toInt64 = offset ↔ 0 ≤ offset ∧ offset ≤ 0xFFFFFFFF := by
  have low : (0 : Int64).toInt = 0 := by decide
  have high : (0xFFFFFFFF : Int64).toInt = 2 ^ 32 - 1 := by decide
  rw [← Int64.toInt_inj, toInt_unsigned, Int64.le_iff_toInt_le, Int64.le_iff_toInt_le, low, high]
  omega

theorem storedOffset_eq_iff (version : UInt8) (offset : Int64) :
    storedOffset version offset = offset ↔ InRange version offset := by
  unfold storedOffset InRange
  split
  · exact signed_eq_iff offset
  · exact unsigned_eq_iff offset

/-- Cutting twice is cutting once. -/
theorem storedOffset_idem (version : UInt8) (offset : Int64) :
    storedOffset version (storedOffset version offset) = storedOffset version offset := by
  unfold storedOffset
  split
  · rw [← Int64.toInt_inj]
    simp only [Int32.toInt_toInt64, Int64.toInt_toInt32, Int.bmod_bmod]
  · rw [← Int64.toInt_inj, toInt_unsigned, toInt_unsigned, Int.emod_emod]

theorem offsetBytes_stored (version : UInt8) (offset : Int64) :
    Trun.offsetBytes version (storedOffset version offset) = Trun.offsetBytes version offset := by
  unfold Trun.offsetBytes storedOffset
  split
  · congr 1
    rw [← Int32.toInt_inj]
    simp only [Int32.toInt_toInt64, Int64.toInt_toInt32, Int.bmod_bmod]
  · congr 1
    rw [UInt64.toUInt64_toInt64, UInt32.toUInt32_toUInt64]

theorem inRange_stored (version : UInt8) (offset : Int64) :
    InRange version (storedOffset version offset) :=
  (storedOffset_eq_iff _ _).mp (storedOffset_idem version offset)

theorem map_eq_self_iff {α : Type} {change : α → α} {values : List α} :
    values.map change = values ↔ ∀ value ∈ values, change value = value := by
  have pointwise := List.map_inj_left (f := change) (g := id) (l := values)
  rw [List.map_id] at pointwise
  exact pointwise

/-! ## Track runs -/

namespace Trun

theorem representable_iff (version : UInt8) (offset : Int64) :
    Representable version offset ↔ storedOffset version offset = offset := by
  unfold Representable storedOffset
  split <;> rfl

def storedSample (version : UInt8) (sample : TrunSample) : TrunSample :=
  { sample with compositionTimeOffset := sample.compositionTimeOffset.map (storedOffset version) }

/-- The run with its offsets cut to their fields. -/
def stored (trun : Trun) : Trun :=
  { trun with samples := trun.samples.map (storedSample trun.header.version) }

theorem sampleBytes_stored (version : UInt8) (sample : TrunSample) :
    sampleBytes version (storedSample version sample) = sampleBytes version sample := by
  unfold sampleBytes storedSample
  cases sample.compositionTimeOffset with
  | none => rfl
  | some offset => simp only [Option.map_some, optional_some, offsetBytes_stored]

theorem body_stored (trun : Trun) : trun.stored.body = trun.body := by
  unfold body stored
  rw [List.length_map, List.flatMap_map]
  simp only [sampleBytes_stored]

/-- Cutting changes nothing that validity depends on. -/
theorem stored_valid {trun : Trun} (valid : trun.Valid) : trun.stored.Valid where
  version := valid.version
  signed := valid.signed
  dataOffset := valid.dataOffset
  firstSampleFlags := valid.firstSampleFlags
  duration := by
    rw [stored, List.forall_mem_map]
    exact valid.duration
  size := by
    rw [stored, List.forall_mem_map]
    exact valid.size
  flags := by
    rw [stored, List.forall_mem_map]
    exact valid.flags
  compositionTimeOffset := by
    rw [stored, List.forall_mem_map]
    intro sample member
    rw [storedSample, Option.isSome_map]
    exact valid.compositionTimeOffset sample member
  signedRange := by
    rw [stored, List.forall_mem_map]
    intro one sample member offset found
    obtain ⟨original, _, rfl⟩ := Option.map_eq_some_iff.mp found
    have inside := inRange_stored trun.header.version original
    rw [InRange, if_pos one] at inside
    exact inside.2
  unsignedRange := by
    rw [stored, List.forall_mem_map]
    intro zero sample member offset found
    obtain ⟨original, _, rfl⟩ := Option.map_eq_some_iff.mp found
    have unsigned : ¬trun.header.version = 1 := by
      change trun.header.version = 0 at zero
      rw [zero]
      decide
    have inside := inRange_stored trun.header.version original
    rw [InRange, if_neg unsigned] at inside
    exact inside.2
  firstSampleFlagsValid := valid.firstSampleFlagsValid
  flagsValid := by
    rw [stored, List.forall_mem_map]
    exact valid.flagsValid

/-- A valid run reads back with its offsets cut. -/
theorem read_stored {trun : Trun} (valid : trun.Valid) (small : trun.header.flags.toNat < 2 ^ 24)
    (countable : trun.samples.length < 2 ^ 32) :
    Reads (read .unlimited trun.header.header) (trun.header.bytes ++ trun.body) trun.stored := by
  have countable : trun.stored.samples.length < 2 ^ 32 := by
    rw [stored, List.length_map]
    exact countable
  have read := read_reads (stored_valid valid) small countable (by
    rw [stored, List.forall_mem_map]
    intro sample member offset found
    obtain ⟨original, _, rfl⟩ := Option.map_eq_some_iff.mp found
    exact (representable_iff _ _).mpr (storedOffset_idem trun.header.version original))
  rw [body_stored] at read
  exact read

theorem stored_eq_iff (trun : Trun) :
    trun.stored = trun ↔ ∀ sample ∈ trun.samples, ∀ offset,
      sample.compositionTimeOffset = some offset → InRange trun.header.version offset := by
  have samples : trun.stored = trun ↔
      trun.samples.map (storedSample trun.header.version) = trun.samples := by
    constructor
    · exact congrArg Trun.samples
    · intro same
      rw [stored, same]
  rw [samples, map_eq_self_iff]
  apply forall₂_congr
  intro sample member
  obtain ⟨duration, size, flags, time⟩ := sample
  cases time with
  | none => exact ⟨nofun, fun _ => rfl⟩
  | some offset =>
      simp only [storedSample, Option.map_some, TrunSample.mk.injEq, true_and, Option.some.injEq,
        storedOffset_eq_iff, forall_eq']

end Trun

/-! ## Composition tables -/

namespace Ctts

def storedEntry (version : UInt8) (entry : CttsEntry) : CttsEntry :=
  { entry with sampleOffset := storedOffset version entry.sampleOffset }

/-- The table with its offsets cut to their fields. -/
def stored (ctts : Ctts) : Ctts :=
  { ctts with entries := ctts.entries.map (storedEntry ctts.header.version) }

theorem readOffset_stored (version : UInt8) (offset : Int64) :
    Reads (readOffset version) (offsetBytes version offset) (storedOffset version offset) := by
  have read := Trun.readOffset_reads
    ((Trun.representable_iff _ _).mpr (storedOffset_idem version offset))
  rw [offsetBytes_stored] at read
  exact read

theorem readEntry_stored (header : FullBoxHeader) (entry : CttsEntry) :
    Reads (readEntry header) (entryBytes header.version entry)
      (storedEntry header.version entry) := by
  apply (Reads.readU32 entry.sampleCount).bind
  apply (readOffset_stored header.version entry.sampleOffset).finish
  exact Reads.pure _

theorem entryBytes_stored (version : UInt8) (entry : CttsEntry) :
    entryBytes version (storedEntry version entry) = entryBytes version entry := by
  unfold entryBytes storedEntry
  rw [show offsetBytes version (storedOffset version entry.sampleOffset) =
    offsetBytes version entry.sampleOffset from offsetBytes_stored version entry.sampleOffset]

/-- Everything after the full header. -/
def body (ctts : Ctts) : Bytes :=
  beU32 (UInt32.ofNat ctts.entries.length) ++
    ctts.entries.flatMap (entryBytes ctts.header.version)

theorem written {ctts : Ctts} (valid : ctts.validate = .ok ())
    (small : ctts.header.flags.toNat < 2 ^ 24) :
    Written ctts (ctts.header.bytes ++ ctts.body) where
  valid := valid
  written := by
    change muxTable _ _ _ = _
    rw [muxTable, FullBoxHeader.mux_eq_ok small]
    rfl
  sized := by
    have table : muxTable ctts.header (entryBytes ctts.header.version) ctts.entries =
        .ok (ctts.header.bytes ++ ctts.body) := by
      rw [muxTable, FullBoxHeader.mux_eq_ok small]
      rfl
    exact (length_muxTable (length_entryBytes _) table).symm

/-- A table reads back with its offsets cut. -/
theorem read_stored {ctts : Ctts} (small : ctts.header.flags.toNat < 2 ^ 24)
    (countable : ctts.entries.length < 2 ^ 32) :
    Reads (read .unlimited ctts.header.header) (ctts.header.bytes ++ ctts.body) ctts.stored := by
  have few : ctts.stored.entries.length < 2 ^ 32 := by
    rw [stored, List.length_map]
    exact countable
  have table := @readTable_reads CttsEntry ctts.header readEntry (entryBytes ctts.header.version)
    ctts.stored.entries small few (by
      rw [stored, List.forall_mem_map]
      intro entry member
      have read := readEntry_stored ctts.header (storedEntry ctts.header.version entry)
      have same : storedEntry ctts.header.version (storedEntry ctts.header.version entry) =
          storedEntry ctts.header.version entry := by
        simp only [storedEntry, storedOffset_idem]
      rwa [same] at read)
  have bytes : ctts.stored.entries.flatMap (entryBytes ctts.header.version) =
      ctts.entries.flatMap (entryBytes ctts.header.version) := by
    rw [stored, List.flatMap_map]
    simp only [entryBytes_stored]
  have length : ctts.stored.entries.length = ctts.entries.length := by
    rw [stored, List.length_map]
  rw [bytes, length] at table
  exact table.map fun pair => (⟨pair.1, pair.2⟩ : Ctts)

theorem stored_eq_iff (ctts : Ctts) :
    ctts.stored = ctts ↔ ∀ entry ∈ ctts.entries, InRange ctts.header.version entry.sampleOffset := by
  have entries : ctts.stored = ctts ↔
      ctts.entries.map (storedEntry ctts.header.version) = ctts.entries := by
    constructor
    · exact congrArg Ctts.entries
    · intro same
      rw [stored, same]
  rw [entries, map_eq_self_iff]
  apply forall₂_congr
  intro entry member
  obtain ⟨count, offset⟩ := entry
  simp only [storedEntry, CttsEntry.mk.injEq, true_and, storedOffset_eq_iff]

end Ctts

/-! ## Both kinds of box -/

/-- A box that holds composition offsets. -/
inductive OffsetBox where
  | trun (box : Trun)
  | ctts (box : Ctts)

namespace OffsetBox

def toDynBox : OffsetBox → DynBox
  | .trun box => .trun box
  | .ctts box => .ctts box

def name : OffsetBox → FourCC
  | .trun _ => Trun.name
  | .ctts _ => Ctts.name

def header : OffsetBox → FullBoxHeader
  | .trun box => box.header
  | .ctts box => box.header

def validate : OffsetBox → Except IoFault Unit
  | .trun box => box.validate
  | .ctts box => box.validate

/-- The number of samples or entries. -/
def count : OffsetBox → Nat
  | .trun box => box.samples.length
  | .ctts box => box.entries.length

def offsets : OffsetBox → List Int64
  | .trun box => box.samples.filterMap (·.compositionTimeOffset)
  | .ctts box => box.entries.map (·.sampleOffset)

/-- Writing the box and reading the bytes gives the box back and uses all of them. -/
def RoundTrips (checks : OverflowChecks) (box : OffsetBox) : Prop :=
  ∃ bytes, box.toDynBox.mux = .ok bytes ∧
    DynBox.demux checks bytes 0 = .ok (box.toDynBox, bytes.length)

/-- A written box is read as what its payload makes of it. -/
theorem demux_written (checks : OverflowChecks) {kind : BoxKind} {payload : Bytes} {read : DynBox}
    (room : payload.length + 16 < 2 ^ 64)
    (parsed : ∀ nested, DynBox.ofData checks nested ⟨kind.name⟩ payload = .ok read) :
    DynBox.demux checks (frame kind.name payload) 0 =
      .ok (read, (frame kind.name payload).length) := by
  rw [DynBox.demux]
  exact (DynBox.demuxWithin_frame checks room (parsed _)).run

/-- What a box becomes when it is written and read, given its bytes. -/
theorem roundTrips_iff {checks : OverflowChecks} {box : OffsetBox} {kind : BoxKind}
    {payload : Bytes} {read : DynBox} (written : box.toDynBox.mux = .ok (frame kind.name payload))
    (room : payload.length + 16 < 2 ^ 64)
    (parsed : ∀ nested, DynBox.ofData checks nested ⟨kind.name⟩ payload = .ok read) :
    RoundTrips checks box ↔ read = box.toDynBox := by
  have done := demux_written checks room parsed
  constructor
  · rintro ⟨bytes, same, back⟩
    rw [written] at same
    cases same
    rw [done] at back
    cases back
    rfl
  · intro same
    refine ⟨_, written, ?_⟩
    rw [done, same]

theorem length_trunBody_le (trun : Trun) : trun.body.length ≤ 12 + trun.samples.length * 16 := by
  have sample (sample : TrunSample) :
      (Trun.sampleBytes trun.header.version sample).length ≤ 16 := by
    unfold Trun.sampleBytes
    rw [List.length_append, List.length_append, List.length_append, length_optional length_beU32,
      length_optional length_beU32, length_optional Trun.length_flagsBytes,
      length_optional (Trun.length_offsetBytes _)]
    split_ifs <;> omega
  have samples : (trun.samples.flatMap (Trun.sampleBytes trun.header.version)).length ≤
      trun.samples.length * 16 := by
    induction trun.samples with
    | nil => exact Nat.zero_le _
    | cons first rest ih =>
        have one := sample first
        rw [List.flatMap_cons, List.length_append, List.length_cons]
        omega
  unfold Trun.body
  rw [List.length_append, List.length_append, List.length_append, length_beU32,
    length_optional length_beI32, length_optional Trun.length_flagsBytes]
  split_ifs <;> omega

/-- A box that its checks accept comes back from its bytes exactly when each of its
offsets is in the range of the field that the version selects. -/
theorem roundTrips_iff_inRange (checks : OverflowChecks) (box : OffsetBox)
    (named : box.header.header.boxType = box.name) (small : box.header.flags.toNat < 2 ^ 24)
    (accepted : box.validate = .ok ()) (countable : box.count < 2 ^ 32) :
    RoundTrips checks box ↔ ∀ offset ∈ box.offsets, InRange box.header.version offset := by
  cases box with
  | trun trun =>
      change trun.samples.length < 2 ^ 32 at countable
      have valid := Trun.validate_eq_ok.mp accepted
      have sized := length_trunBody_le trun
      have read := Trun.read_stored valid small countable
      rw [show trun.header.header = ⟨Trun.name⟩ from congrArg BoxHeader.mk named] at read
      have iff := @roundTrips_iff checks (.trun trun) .trun _ _ (Trun.written valid small).mux
        (by rw [List.length_append, FullBoxHeader.length_bytes]; omega)
        (fun nested => DynBox.ofData_trun checks nested read)
      rw [iff]
      change DynBox.trun trun.stored = .trun trun ↔ _
      rw [DynBox.trun.injEq, Trun.stored_eq_iff]
      change _ ↔ ∀ offset ∈ trun.samples.filterMap _, _
      simp only [List.mem_filterMap, forall_exists_index, and_imp]
      constructor
      · intro inside offset sample member found
        exact inside sample member offset found
      · intro inside sample member offset found
        exact inside offset sample member found
  | ctts ctts =>
      change ctts.entries.length < 2 ^ 32 at countable
      have read := Ctts.read_stored small countable
      rw [show ctts.header.header = ⟨Ctts.name⟩ from congrArg BoxHeader.mk named] at read
      have sized : ctts.body.length = 4 + ctts.entries.length * 8 := by
        rw [Ctts.body, List.length_append, length_beU32,
          length_flatMap_const (Ctts.length_entryBytes _)]
      have iff := @roundTrips_iff checks (.ctts ctts) .ctts _ _ (Ctts.written accepted small).mux
        (by rw [List.length_append, FullBoxHeader.length_bytes]; omega)
        (fun nested => DynBox.ofData_plain checks nested .ctts (fun _ _ => rfl) read.parse)
      rw [iff]
      change DynBox.ctts ctts.stored = .ctts ctts ↔ _
      rw [DynBox.ctts.injEq, Ctts.stored_eq_iff]
      change _ ↔ ∀ offset ∈ ctts.entries.map _, _
      rw [List.forall_mem_map]
      rfl

/-- A run of version 1 with an offset below zero. -/
def signedRun : OffsetBox := .trun (Trun.new [⟨none, none, none, some (-40)⟩] none)

theorem signedRun_roundTrips : signedRun.validate = .ok () ∧ RoundTrips .on signedRun := by
  have accepted : signedRun.validate = .ok () := by rfl
  have inside : ∀ offset ∈ signedRun.offsets, InRange 1 offset := by
    intro offset member
    rw [List.mem_singleton.mp (show offset ∈ [-40] from member), InRange, if_pos rfl]
    decide
  exact ⟨accepted,
    (roundTrips_iff_inRange .on signedRun rfl (by decide) accepted (by decide)).mpr inside⟩

/-- A table of version 0 with an offset below zero. -/
def negativeTable : OffsetBox := .ctts ⟨.new Ctts.name 0 0, [⟨1, -1⟩]⟩

/-- Its checks accept the table, and it does not come back. -/
theorem negativeTable_changed :
    negativeTable.header.header.boxType = negativeTable.name ∧
      negativeTable.validate = .ok () ∧ ¬RoundTrips .off negativeTable := by
  refine ⟨rfl, rfl, ?_⟩
  rintro ⟨bytes, written, back⟩
  cases written
  cases back

end OffsetBox

end ScuffleVideo.Mp4
