import ScuffleVideo.Mp4.CompositionOffsets

/-!
# Edit lists

An edit list has fields of 32 bits in version 0 and of 64 bits in version 1.  The checks
hold the entries of version 1 to the upper bounds of 32 bits and let those of version 0
pass, so they agree with the fields only where the entries are narrow in both versions.
-/

namespace ScuffleVideo.Mp4

open Wire Wire.Reader
open Tfdt (readTime timeBytes readTime_reads)

namespace Elst

/-- The fields of a version can hold the entry. -/
def Holds (version : UInt8) (entry : ElstEntry) : Prop :=
  version = 0 → entry.segmentDuration.toNat < 2 ^ 32 ∧
    Int32.minValue.toInt64 ≤ entry.mediaTime ∧ entry.mediaTime ≤ Int32.maxValue.toInt64

/-- The entry does not exceed 32 bits. -/
def Narrow (entry : ElstEntry) : Prop :=
  entry.segmentDuration.toNat < 2 ^ 32 ∧ entry.mediaTime ≤ Int32.maxValue.toInt64

/-! ## The checks -/

theorem checkEntry_eq_ok {entry : ElstEntry} : checkEntry entry = .ok () ↔ Narrow entry := by
  unfold checkEntry Narrow
  rw [andThen_eq_ok, refuse_eq_ok, refuse_eq_ok, decide_eq_false_iff_not, decide_eq_false_iff_not,
    Int64.not_lt]
  apply and_congr_left
  intro _
  unfold u32Max
  omega

theorem validate_eq_ok {elst : Elst} (plain : elst.header.flags = 0)
    (supported : elst.header.version = 0 ∨ elst.header.version = 1) :
    elst.validate = .ok () ↔
      (elst.header.version = 1 → ∀ entry ∈ elst.entries, Narrow entry) := by
  have known : ¬1 < elst.header.version := by
    rcases supported with zero | one
    · rw [zero]
      decide
    · rw [one]
      decide
  unfold validate
  rw [andThen_eq_ok, andThen_eq_ok, refuse_eq_ok, refuse_eq_ok, plain,
    and_iff_right (show ((0 : UInt32) != 0) = false from rfl),
    and_iff_right (decide_eq_false_iff_not.mpr known)]
  split
  · rename_i one
    rw [forM_eq_ok]
    simp only [checkEntry_eq_ok]
    exact ⟨fun all _ => all, fun all => all one⟩
  · rename_i other
    exact ⟨fun _ one => absurd one other, fun _ => rfl⟩

/-! ## Reading what was written -/

theorem readTime_holds {version : UInt8} {entry : ElstEntry}
    (supported : version = 0 ∨ version = 1) (holds : Holds version entry) :
    Reads (readTime version) (timeBytes version entry.segmentDuration) entry.segmentDuration :=
  readTime_reads fun other => Nat.le_of_lt_succ (holds (supported.resolve_right other)).1

theorem readMediaTime_holds {version : UInt8} {entry : ElstEntry}
    (supported : version = 0 ∨ version = 1) (holds : Holds version entry) :
    Reads (readMediaTime version) (mediaTimeBytes version entry.mediaTime) entry.mediaTime := by
  unfold readMediaTime mediaTimeBytes
  split
  · exact Reads.readI64 entry.mediaTime
  · rename_i other
    have same := (signed_eq_iff entry.mediaTime).mpr (holds (supported.resolve_right other)).2
    have read := (Reads.readI32 (ε := IoFault) entry.mediaTime.toInt32).map Int32.toInt64
    rw [same] at read
    exact read

theorem readEntry_reads {header : FullBoxHeader} {entry : ElstEntry}
    (supported : header.version = 0 ∨ header.version = 1) (holds : Holds header.version entry) :
    Reads (readEntry header) (entryBytes header.version entry) entry := by
  apply (readTime_holds supported holds).bind
  apply (readMediaTime_holds supported holds).bind
  apply (Reads.readI16 entry.mediaRateInteger).bind
  apply (Reads.readI16 entry.mediaRateFraction).finish
  exact Reads.pure entry

/-- Everything after the full header. -/
def body (elst : Elst) : Bytes :=
  beU32 (UInt32.ofNat elst.entries.length) ++
    elst.entries.flatMap (entryBytes elst.header.version)

theorem length_body (elst : Elst) :
    elst.body.length = 4 + elst.entries.length * entryWidth elst.header.version := by
  rw [body, List.length_append, length_beU32, length_flatMap_const (length_entryBytes _)]

theorem written {elst : Elst} (valid : elst.validate = .ok ()) (plain : elst.header.flags = 0) :
    Written elst (elst.header.bytes ++ elst.body) where
  valid := valid
  written := by
    change muxTable _ _ _ = _
    rw [muxTable, FullBoxHeader.mux_eq_ok (by rw [plain]; decide)]
    rfl
  sized := by
    rw [List.length_append, FullBoxHeader.length_bytes, length_body]
    change tableSize _ _ _ = _
    rw [tableSize, Nat.add_assoc]
    rfl

theorem read_reads {elst : Elst} (plain : elst.header.flags = 0)
    (supported : elst.header.version = 0 ∨ elst.header.version = 1)
    (countable : elst.entries.length < 2 ^ 32)
    (holds : ∀ entry ∈ elst.entries, Holds elst.header.version entry) :
    Reads (read .unlimited elst.header.header) (elst.header.bytes ++ elst.body) elst := by
  have table := @readTable_reads ElstEntry elst.header readEntry (entryBytes elst.header.version)
    elst.entries (by rw [plain]; decide) countable
    (fun entry member => readEntry_reads supported (holds entry member))
  exact table.map fun pair => (⟨pair.1, pair.2⟩ : Elst)

/-- A list that was read has the name of its type and a number of entries that its count
can tell. -/
theorem of_demux {checks : OverflowChecks} {buffer : Bytes} {position stop : Nat} {elst : Elst}
    (read : DynBox.demux checks buffer position = .ok (.elst elst, stop)) :
    elst.header.header.boxType = name ∧ elst.entries.length < 2 ^ 32 := by
  obtain ⟨data, payload⟩ := DynBox.of_demux_plain (fun _ _ _ => rfl)
    (fun _ _ same => DynBox.elst.inj same) rfl read
  obtain ⟨_, table⟩ := ok_of_parse payload
  obtain ⟨⟨full, entries⟩, _, inner, done⟩ := bind_eq_ok_iff.mp table
  cases done
  obtain ⟨typed, countable⟩ := of_readTable inner
  exact ⟨congrArg BoxHeader.boxType typed, countable⟩

/-! ## Checks and fields -/

/-- Writing the list and reading the bytes gives the list back and uses all of them. -/
def RoundTrips (checks : OverflowChecks) (elst : Elst) : Prop :=
  ∃ bytes, BoxType.mux elst = .ok bytes ∧
    DynBox.demux checks bytes 0 = .ok (.elst elst, bytes.length)

/-- The checks accept exactly the lists whose entries the fields of their version hold,
and what they accept comes back. -/
structure Faithful (checks : OverflowChecks) (elst : Elst) : Prop where
  accepts_iff : elst.validate = .ok () ↔ ∀ entry ∈ elst.entries, Holds elst.header.version entry
  roundTrips : elst.validate = .ok () → RoundTrips checks elst

theorem roundTrips_of_holds (checks : OverflowChecks) {elst : Elst}
    (plain : elst.header.flags = 0)
    (supported : elst.header.version = 0 ∨ elst.header.version = 1)
    (named : elst.header.header.boxType = name) (countable : elst.entries.length < 2 ^ 32)
    (valid : elst.validate = .ok ())
    (holds : ∀ entry ∈ elst.entries, Holds elst.header.version entry) :
    RoundTrips checks elst := by
  have read := read_reads plain supported countable holds
  rw [show elst.header.header = ⟨name⟩ from congrArg BoxHeader.mk named] at read
  have width : entryWidth elst.header.version ≤ 20 := by
    unfold entryWidth
    split <;> omega
  have room : (elst.header.bytes ++ elst.body).length + 16 < 2 ^ 64 := by
    have most := Nat.mul_le_mul_left elst.entries.length width
    rw [List.length_append, FullBoxHeader.length_bytes, length_body]
    omega
  refine ⟨_, (written valid plain).mux, ?_⟩
  exact @OffsetBox.demux_written checks .elst _ _ room
    fun nested => DynBox.ofData_plain checks nested .elst (fun _ _ => rfl) read.parse

/-- The checks of an edit list do what its fields need exactly when no entry exceeds 32
bits, in either version, and none of version 0 falls below them. -/
theorem faithful_iff (checks : OverflowChecks) (elst : Elst) (plain : elst.header.flags = 0)
    (supported : elst.header.version = 0 ∨ elst.header.version = 1) :
    Faithful checks elst ↔
      elst.header.header.boxType = name ∧ elst.entries.length < 2 ^ 32 ∧
        ∀ entry ∈ elst.entries, Narrow entry ∧
          (elst.header.version = 0 → Int32.minValue.toInt64 ≤ entry.mediaTime) := by
  have accepted := validate_eq_ok plain supported
  constructor
  · intro faithful
    have valid : elst.validate = .ok () := by
      rcases supported with zero | one
      · rw [accepted, zero]
        intro impossible
        cases impossible
      · rw [faithful.accepts_iff, one]
        intro entry _ impossible
        cases impossible
    have holds := faithful.accepts_iff.mp valid
    obtain ⟨bytes, _, back⟩ := faithful.roundTrips valid
    obtain ⟨named, countable⟩ := of_demux back
    refine ⟨named, countable, fun entry member => ⟨?_, fun zero => ?_⟩⟩
    · rcases supported with zero | one
      · obtain ⟨duration, _, time⟩ := holds entry member zero
        exact ⟨duration, time⟩
      · exact accepted.mp valid one entry member
    · exact (holds entry member zero).2.1
  · rintro ⟨named, countable, bounded⟩
    have valid : elst.validate = .ok () := accepted.mpr fun _ entry member => (bounded entry member).1
    have holds : ∀ entry ∈ elst.entries, Holds elst.header.version entry := by
      intro entry member zero
      obtain ⟨⟨duration, time⟩, low⟩ := bounded entry member
      exact ⟨duration, low zero, time⟩
    exact ⟨⟨fun _ => holds, fun _ => valid⟩,
      fun _ => roundTrips_of_holds checks plain supported named countable valid holds⟩

/-- One edit of version 1, shorter than 32 bits. -/
def shortEdit : Elst := ⟨.new name 1 0, [⟨1000, -1, 1, 0⟩]⟩

theorem shortEdit_faithful : Faithful .on shortEdit := by
  refine (faithful_iff .on shortEdit rfl (.inr rfl)).mpr ⟨rfl, by decide, fun entry member => ?_⟩
  rw [List.mem_singleton.mp (show entry ∈ [⟨1000, -1, 1, 0⟩] from member)]
  exact ⟨⟨by decide, by decide⟩, fun _ => by decide⟩

/-- One edit of version 1 whose duration needs 33 bits. -/
def longEdit : Elst := ⟨.new name 1 0, [⟨0x100000000, 0, 1, 0⟩]⟩

/-- The fields hold the edit, and the checks refuse it. -/
theorem longEdit_refused :
    longEdit.header.flags = 0 ∧ longEdit.header.version = 1 ∧ ¬Faithful .off longEdit := by
  refine ⟨rfl, rfl, fun faithful => ?_⟩
  have accepted : longEdit.validate = .ok () := faithful.accepts_iff.mpr fun _ _ impossible => by
    cases impossible
  cases accepted

end Elst

end ScuffleVideo.Mp4
