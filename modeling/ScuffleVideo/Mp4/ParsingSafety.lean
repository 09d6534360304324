import ScuffleVideo.Mp4.DynBox
import ScuffleVideo.Wire.Crashing

/-!
# Crashes while boxes are read

Four things make the box reader stop without a result: a size field that is too small for its
own header, in a build that checks its arithmetic, a file type box whose payload is too short
for its fixed fields, a data information box without a reference, and a table that announces
more entries than the allocator has room for.  They do so in the first box and in every box
inside it that is reached, that is, in front of which all boxes are accepted.  Nothing else
does, whatever the bytes are.
-/

namespace ScuffleVideo.Mp4

open Wire Wire.Reader

/-! ## Headers -/

namespace BoxHeader

variable {checks : OverflowChecks} {buffer data : Bytes} {position stop : Nat}

/-- The size field at the position says less than the header takes. -/
def Undersized (buffer : Bytes) (position : Nat) : Prop :=
  ∃ shortSize boxType size first second third,
    (readU32 : Reader IoFault UInt32) buffer position = .ok (shortSize, first) ∧
    (readFourCC : Reader IoFault FourCC) buffer first = .ok (boxType, second) ∧
    readSize shortSize buffer second = .ok (size, third) ∧
    size ≠ 0 ∧ size < if shortSize = 1 then 16 else 8

instance (shortSize : UInt32) : Returns (readSize shortSize) := Returns.ite

theorem crashes_extractData {size offset : UInt64} :
    Crashes (extractData checks size offset buffer position) ↔
      checks = .on ∧ size ≠ 0 ∧ size < offset := by
  unfold extractData
  split
  · rename_i zero
    constructor
    · exact fun crashed => absurd crashed Returns.not_crashes
    · exact fun small => absurd zero small.2.1
  · rename_i nonzero
    split
    · rename_i small
      exact ⟨fun _ => ⟨small.1, nonzero, small.2⟩, fun _ => ⟨.panic, rfl, rfl⟩⟩
    · rename_i large
      constructor
      · exact fun crashed => absurd crashed Returns.not_crashes
      · exact fun small => absurd ⟨small.1, small.2.2⟩ large

theorem crashes_demux :
    Crashes (demux checks buffer position) ↔ checks = .on ∧ Undersized buffer position := by
  unfold demux
  rw [crashes_behind]
  simp only [crashes_behind, crashes_before, crashes_extractData]
  constructor
  · rintro ⟨shortSize, first, short, boxType, second, named, size, third, sized, on, small⟩
    exact ⟨on, shortSize, boxType, size, first, second, third, short, named, sized, small⟩
  · rintro ⟨on, shortSize, boxType, size, first, second, third, short, named, sized, small⟩
    exact ⟨shortSize, first, short, boxType, second, named, size, third, sized, on, small⟩

theorem consumes_readFourCC : Consumes 0 (readFourCC : Reader IoFault FourCC) := by
  unfold readFourCC
  exact ((Consumes.readU8.bind fun _ => Consumes.readU8.bind fun _ => Consumes.readU8.bind fun _ =>
    Consumes.readU8.bind fun _ => Consumes.pure _).weaken (Nat.zero_le _))

theorem consumes_readSize (shortSize : UInt32) : Consumes 0 (readSize shortSize) := by
  unfold readSize
  split
  · exact ((Consumes.readUint 8).bind fun _ => Consumes.pure _).weaken (Nat.zero_le _)
  · exact Consumes.pure _

/-- The payload is cut out behind the position. -/
theorem extractData_eq_ok {size offset : UInt64}
    (cut : extractData checks size offset buffer position = .ok (data, stop)) :
    position ≤ stop ∧ data.length ≤ buffer.length - position := by
  unfold extractData at cut
  split at cut
  · cases cut
    exact ⟨Nat.le_max_left _ _, Nat.le_of_eq List.length_drop⟩
  · split at cut
    · cases cut
    · exact ⟨Consumes.extractBytes _ _ _ _ _ cut, length_extractBytes cut⟩

/-- A header takes bytes, and the payload lies behind them. -/
theorem demux_eq_ok {header : BoxHeader}
    (cut : demux checks buffer position = .ok ((header, data), stop)) :
    position < stop ∧ data.length < buffer.length := by
  obtain ⟨shortSize, first, short, more⟩ := bind_eq_ok_iff.mp cut
  obtain ⟨boxType, second, named, more⟩ := bind_eq_ok_iff.mp more
  obtain ⟨size, third, sized, more⟩ := bind_eq_ok_iff.mp more
  obtain ⟨payload, last, behind, same⟩ := bind_eq_ok_iff.mp more
  cases same
  obtain ⟨present, moved⟩ := readUint_inside short
  dsimp only at moved
  have onwards := consumes_readFourCC _ _ _ _ named
  have further := consumes_readSize shortSize _ _ _ _ sized
  obtain ⟨reached, within⟩ := extractData_eq_ok behind
  omega

theorem demux_endsWith : EndsWith (demux checks) buffer := by
  intro position beyond
  refine ⟨.unexpectedEof, bind_error ?_ _, rfl⟩
  refine bind_error (bind_error ?_ _) _
  exact if_neg (by omega)

end BoxHeader

/-! ## Allocations -/

section Allocations

variable {memory : Memory} {boxType : FourCC} {count : Nat} {data : Bytes} {position : Nat}
  {α β : Type}

theorem crashes_allocate :
    Crashes (allocate memory boxType count data position) ↔ memory.Refuses boxType count := by
  unfold allocate Memory.Refuses
  cases memory.limit boxType with
  | none =>
      constructor
      · exact fun crashed => absurd crashed (not_crashes_ok _)
      · rintro ⟨_, impossible, _⟩
        cases impossible
  | some limit =>
      dsimp only
      by_cases beyond : limit < count
      · rw [if_pos beyond]
        exact ⟨fun _ => ⟨limit, rfl, beyond⟩, fun _ => ⟨.panic, rfl, rfl⟩⟩
      · rw [if_neg beyond]
        constructor
        · exact fun crashed => absurd crashed (not_crashes_ok _)
        · rintro ⟨_, same, less⟩
          cases same
          exact absurd less beyond

/-- The reader crashes exactly when there is no room for the number that `asked` comes to. -/
def Asks (memory : Memory) (boxType : FourCC) (asked : Reader IoFault Nat)
    (reader : Reader IoFault α) : Prop :=
  ∀ data position, Crashes (reader data position) ↔
    ∃ count stop, asked data position = .ok (count, stop) ∧ memory.Refuses boxType count

namespace Asks

theorem bind {first : Reader IoFault α} [Returns first] {asked : α → Reader IoFault Nat}
    {next : α → Reader IoFault β} (behind : ∀ value, Asks memory boxType (asked value) (next value)) :
    Asks memory boxType (first >>= asked) (first >>= next) := by
  intro data position
  rw [crashes_behind]
  constructor
  · rintro ⟨value, middle, read, crashed⟩
    obtain ⟨count, stop, more, refused⟩ := (behind value data middle).mp crashed
    exact ⟨count, stop, (bind_ok read _).trans more, refused⟩
  · rintro ⟨count, stop, both, refused⟩
    obtain ⟨value, middle, read, more⟩ := bind_eq_ok_iff.mp both
    exact ⟨value, middle, read, (behind value data middle).mpr ⟨count, stop, more, refused⟩⟩

theorem allocate {next : Unit → Reader IoFault α} [∀ room, Returns (next room)] :
    Asks memory boxType (pure count) (allocate memory boxType count >>= next) := by
  intro data position
  rw [crashes_before, crashes_allocate]
  constructor
  · exact fun refused => ⟨count, position, rfl, refused⟩
  · rintro ⟨_, _, same, refused⟩
    cases same
    exact refused

theorem map {asked : Reader IoFault Nat} {reader : Reader IoFault α} {change : α → β}
    (asks : Asks memory boxType asked reader) :
    Asks memory boxType asked (do return change (← reader)) := by
  intro data position
  rw [crashes_before]
  exact asks data position

end Asks

end Allocations

/-- The number of entries behind a full header. -/
def announced (header : BoxHeader) : Reader IoFault Nat := do
  let _ ← FullBoxHeader.demux header
  let entryCount ← readU32
  return entryCount.toNat

theorem asks_readTable {memory : Memory} {header : BoxHeader} {α : Type}
    {readEntry : FullBoxHeader → Reader IoFault α} [∀ full, Returns (readEntry full)] :
    Asks memory header.boxType (announced header) (readTable memory header readEntry) :=
  .bind fun _ => .bind fun _ => .allocate

/-! ## Payloads -/

namespace DynBox

section Sorting

variable {β γ : Type} {header : BoxHeader}

theorem not_crashes_required {message : String} {found : Option β} {next : β → Except IoFault γ}
    (rest : ∀ box, ¬Crashes (next box)) : ¬Crashes (required message found >>= next) := by
  rw [crashes_sequence]
  rintro (crashed | ⟨box, _, crashed⟩)
  · cases found with
    | none =>
        obtain ⟨fault, same, crashed⟩ := crashed
        cases same
        cases crashed
    | some box => exact not_crashes_ok _ crashed
  · exact rest box crashed

/-- Sorting the boxes of a container never crashes. -/
def Sorts (collect : List DynBox → Except IoFault β) : Prop := ∀ boxes, ¬Crashes (collect boxes)

theorem sorts_moov : Sorts (collectMoov header) :=
  fun _ => not_crashes_required fun _ => not_crashes_ok _

theorem sorts_mvex : Sorts (collectMvex header) := fun _ => not_crashes_ok _

theorem sorts_trak : Sorts (collectTrak header) :=
  fun _ => not_crashes_required fun _ => not_crashes_required fun _ => not_crashes_ok _

theorem sorts_mdia : Sorts (collectMdia header) :=
  fun _ => not_crashes_required fun _ => not_crashes_required fun _ =>
    not_crashes_required fun _ => not_crashes_ok _

theorem sorts_edts : Sorts (collectEdts header) := fun _ => not_crashes_ok _

theorem sorts_minf : Sorts (collectMinf header) :=
  fun _ => not_crashes_required fun _ => not_crashes_required fun _ => not_crashes_ok _

theorem sorts_stbl : Sorts (collectStbl header) :=
  fun _ => not_crashes_required fun _ => not_crashes_required fun _ =>
    not_crashes_required fun _ => not_crashes_required fun _ => not_crashes_ok _

theorem sorts_moof : Sorts (collectMoof header) := by
  intro boxes
  unfold collectMoof
  dsimp only
  split
  · rintro ⟨fault, same, crashed⟩
    cases same
    cases crashed
  · exact not_crashes_ok _

theorem sorts_traf : Sorts (collectTraf header) := by
  intro boxes
  unfold collectTraf
  dsimp only
  split
  · rintro ⟨fault, same, crashed⟩
    cases same
    cases crashed
  · exact not_crashes_ok _

theorem sorts_avc1 (entry : SampleEntry VisualSampleEntry) : Sorts (collectAvc1 header entry) :=
  fun _ => not_crashes_required fun _ => not_crashes_ok _

theorem sorts_hev1 (entry : SampleEntry VisualSampleEntry) : Sorts (collectHev1 header entry) :=
  fun _ => not_crashes_required fun _ => not_crashes_ok _

theorem sorts_av01 (entry : SampleEntry VisualSampleEntry) : Sorts (collectAv01 header entry) :=
  fun _ => not_crashes_required fun _ => not_crashes_ok _

theorem sorts_mp4a (entry : SampleEntry AudioSampleEntry) : Sorts (collectMp4a header entry) :=
  fun _ => not_crashes_required fun _ => not_crashes_ok _

theorem sorts_opus (entry : SampleEntry AudioSampleEntry) : Sorts (collectOpus header entry) :=
  fun _ => not_crashes_ok _

theorem crashes_collectDinf {boxes : List DynBox} :
    Crashes (collectDinf header boxes) ↔ ∀ box ∈ boxes, asDref box = none := by
  rw [← lastOf_eq_none_iff]
  unfold collectDinf
  split
  · rename_i absent
    exact ⟨fun _ => absent, fun _ => ⟨.panic, rfl, rfl⟩⟩
  · rename_i found
    constructor
    · exact fun crashed => absurd crashed (not_crashes_ok _)
    · intro absent
      rw [absent] at found
      cases found

end Sorting

/-- How a box of a type comes to the number of entries that it allocates its table for. -/
def requests (header : BoxHeader) : BoxKind → Option (Reader IoFault Nat)
  | .stts | .ctts | .stsc | .stco | .co64 | .stss | .stsh | .elst | .subs | .stsd =>
      some (announced header)
  | .stsz => some (do
      let _ ← FullBoxHeader.demux header
      let _ ← (readU32 : Reader IoFault UInt32)
      let sampleCount ← readU32
      return sampleCount.toNat)
  | .stz2 => some (do
      let _ ← FullBoxHeader.demux header
      let _ ← (readU24 : Reader IoFault UInt32)
      let _ ← (readU8 : Reader IoFault UInt8)
      let sampleCount ← readU32
      return sampleCount.toNat)
  | .padb => some (do
      let _ ← FullBoxHeader.demux header
      let sampleCount ← readU32
      return (sampleCount.toNat + 1) / 2)
  | .sbgp => some (do
      let full ← FullBoxHeader.demux header
      let _ ← optionally (full.version == 1) (readU32 : Reader IoFault UInt32)
      let entryCount ← readU32
      return entryCount.toNat)
  | .trun => some (do
      let full ← FullBoxHeader.demux header
      let sampleCount ← readU32
      let _ ← optionally (hasFlag full.flags Trun.flagDataOffset) (readI32 : Reader IoFault Int32)
      let _ ← optionally (hasFlag full.flags Trun.flagFirstSampleFlags) Trun.readFlags
      return sampleCount.toNat)
  | _ => none

/-- There is no room for the entries that the payload announces. -/
def TooMany (memory : Memory) (header : BoxHeader) (data : Bytes) (kind : BoxKind) : Prop :=
  ∃ asked count stop, requests header kind = some asked ∧ asked data 0 = .ok (count, stop) ∧
    memory.Refuses header.boxType count

/-- The front of a box that announces the number of the boxes inside it. -/
def opened (room : Nat → Reader IoFault Unit) (header : BoxHeader) :
    Reader IoFault (Option Nat) := do
  let count ← announced header
  room count
  return some count

/-- What a box of a type has in front of the boxes inside it, with their number where that
is fixed. -/
def opening (memory : Memory) (header : BoxHeader) :
    BoxKind → Option (Reader IoFault (Option Nat))
  | .moov | .mvex | .trak | .mdia | .edts | .minf | .dinf | .stbl | .moof | .traf =>
      some (pure none)
  | .dref => some (opened (fun _ => pure ()) header)
  | .stsd => some (opened (allocate memory header.boxType) header)
  | .avc1 | .hev1 | .av01 => some (do
      let _ ← (SampleEntry.demux : Reader IoFault (SampleEntry VisualSampleEntry))
      return none)
  | .mp4a | .opus => some (do
      let _ ← (SampleEntry.demux : Reader IoFault (SampleEntry AudioSampleEntry))
      return none)
  | _ => none

section Payloads

variable {build : Build} {nested : Reader IoFault DynBox} {header : BoxHeader}
  {data : Bytes} {position : Nat} {kind : BoxKind} {β : Type}

/-- The boxes of the payload are all accepted, and none of them is a reference. -/
def NoReference (nested : Reader IoFault DynBox) (data : Bytes) : Prop :=
  ∃ boxes stop, Passes nested data 0 boxes stop ∧ data.length ≤ stop ∧
    ∀ box ∈ boxes, asDref box = none

/-- A box in the payload holds, and all boxes in front of it are accepted. -/
def Inside (memory : Memory) (nested : Reader IoFault DynBox) (holds : Nat → Prop)
    (header : BoxHeader) (data : Bytes) (kind : BoxKind) : Prop :=
  ∃ reader limit start boxes place, opening memory header kind = some reader ∧
    reader data 0 = .ok (limit, start) ∧ Passes nested data start boxes place ∧
    (∀ count, limit = some count → boxes.length < count) ∧ holds place

theorem unlimited {boxes : List DynBox} : ∀ count, none = some count → boxes.length < count := by
  intro count impossible
  cases impossible

/-- The four ways in which a payload crashes its reader. -/
def PayloadCrashes (memory : Memory) (nested : Reader IoFault DynBox) (holds : Nat → Prop)
    (header : BoxHeader) (data : Bytes) (kind : BoxKind) : Prop :=
  (kind = .ftyp ∧ data.length < 8) ∨ (kind = .dinf ∧ NoReference nested data) ∨
    TooMany memory header data kind ∨ Inside memory nested holds header data kind

/-- The payload of a box that asks for no room. -/
theorem payloadCrashes_iff_inside {memory : Memory} {holds : Nat → Prop}
    (asksNothing : requests header kind = none) (notFtyp : kind ≠ .ftyp) (notDinf : kind ≠ .dinf) :
    PayloadCrashes memory nested holds header data kind ↔
      Inside memory nested holds header data kind := by
  constructor
  · rintro (⟨same, _⟩ | ⟨same, _⟩ | ⟨_, _, _, asked, _⟩ | inside)
    · exact absurd same notFtyp
    · exact absurd same notDinf
    · rw [asksNothing] at asked
      cases asked
    · exact inside
  · exact fun inside => .inr (.inr (.inr inside))

theorem not_inside {memory : Memory} {holds : Nat → Prop}
    (plain : opening memory header kind = none) :
    ¬Inside memory nested holds header data kind := by
  rintro ⟨reader, _, _, _, _, opens, _⟩
  rw [plain] at opens
  cases opens

theorem crashes_collected (moves : Consumes 1 nested) (ends : EndsWith nested data)
    {collect : List DynBox → Except IoFault β} (sorts : Sorts collect) :
    Crashes (collected nested collect data position) ↔
      ∃ boxes place, Passes nested data position boxes place ∧ Crashes (nested data place) := by
  unfold collected
  rw [crashes_bind, crashes_untilEnd moves ends]
  apply or_iff_left
  rintro ⟨boxes, stop, _, crashed⟩
  exact sorts boxes (crashes_ofExcept.mp crashed)

/-- A box without boxes inside. -/
theorem crashes_plain [BoxType β] [returns : DemuxReturns β] {inject : β → DynBox}
    {holds : Nat → Prop} (asksNothing : requests header kind = none)
    (plain : opening build.memory header kind = none) (notFtyp : kind ≠ .ftyp)
    (notDinf : kind ≠ .dinf) :
    Crashes (do return inject (← BoxType.demux build header data)) ↔
      PayloadCrashes build.memory nested holds header data kind := by
  rw [crashes_map, payloadCrashes_iff_inside asksNothing notFtyp notDinf]
  exact iff_of_false (not_crashes_iff.mpr (returns.returned build header data)) (not_inside plain)

/-- A table that is allocated for as many entries as it announces. -/
theorem crashes_table {memory : Memory} {read : Reader IoFault β} {asked : Reader IoFault Nat}
    {inject : β → DynBox} {holds : Nat → Prop} (asks : Asks memory header.boxType asked read)
    (requested : requests header kind = some asked) (plain : opening memory header kind = none)
    (notFtyp : kind ≠ .ftyp) (notDinf : kind ≠ .dinf) :
    Crashes (do return inject (← read.parse data)) ↔
      PayloadCrashes memory nested holds header data kind := by
  rw [crashes_map, crashes_parse, asks]
  constructor
  · rintro ⟨count, stop, announced, refused⟩
    exact .inr (.inr (.inl ⟨asked, count, stop, requested, announced, refused⟩))
  · rintro (⟨same, _⟩ | ⟨same, _⟩ | ⟨_, count, stop, same, announced, refused⟩ | inside)
    · exact absurd same notFtyp
    · exact absurd same notDinf
    · rw [requested] at same
      cases same
      exact ⟨count, stop, announced, refused⟩
    · exact absurd inside (not_inside plain)

/-- A box that holds boxes until its end. -/
theorem crashes_container {memory : Memory} (moves : Consumes 1 nested)
    (ends : EndsWith nested data)
    {collect : List DynBox → Except IoFault β} (sorts : Sorts collect) {inject : β → DynBox}
    (asksNothing : requests header kind = none)
    (opens : opening memory header kind = some (pure none)) (notFtyp : kind ≠ .ftyp)
    (notDinf : kind ≠ .dinf) :
    Crashes (do return inject (← (collected nested collect).parse data)) ↔
      PayloadCrashes memory nested (fun place => Crashes (nested data place)) header data kind := by
  rw [crashes_map, crashes_parse, crashes_collected moves ends sorts,
    payloadCrashes_iff_inside asksNothing notFtyp notDinf]
  constructor
  · rintro ⟨boxes, place, passed, crashed⟩
    exact ⟨_, none, 0, boxes, place, opens, rfl, passed, unlimited, crashed⟩
  · rintro ⟨reader, limit, start, boxes, place, same, begun, passed, _, crashed⟩
    rw [opens] at same
    cases same
    cases begun
    exact ⟨boxes, place, passed, crashed⟩

/-- A box that announces the number of the boxes inside it. -/
theorem crashes_counted {room : Nat → Reader IoFault Unit}
    {make : FullBoxHeader → List DynBox → β} :
    Crashes ((counted nested room make header).parse data) ↔
      (∃ count stop, announced header data 0 = .ok (count, stop) ∧
        Crashes (room count data stop)) ∨
      ∃ count start boxes place, opened room header data 0 = .ok (some count, start) ∧
        Passes nested data start boxes place ∧ boxes.length < count ∧
        Crashes (nested data place) := by
  rw [crashes_parse, counted, crashes_behind]
  constructor
  · rintro ⟨full, first, headed, crashed⟩
    obtain ⟨count, second, counted, crashed⟩ := crashes_behind.mp crashed
    have said : announced header data 0 = .ok (count.toNat, second) := by
      rw [announced, bind_ok headed, bind_ok counted]
      rfl
    rcases crashes_bind.mp crashed with refused | ⟨_, start, granted, crashed⟩
    · exact .inl ⟨count.toNat, second, said, refused⟩
    · obtain ⟨boxes, place, passed, fewer, crashed⟩ :=
        crashes_repeated.mp (crashes_before.mp crashed)
      refine .inr ⟨count.toNat, start, boxes, place, ?_, passed, fewer, crashed⟩
      rw [opened, bind_ok said, bind_ok granted]
      rfl
  · have behind {count stop : Nat} (said : announced header data 0 = .ok (count, stop)) :
        ∃ full first number, FullBoxHeader.demux header data 0 = .ok (full, first) ∧
          (readU32 : Reader IoFault UInt32) data first = .ok (number, stop) ∧
          number.toNat = count := by
      obtain ⟨full, first, headed, more⟩ := bind_eq_ok_iff.mp said
      obtain ⟨number, second, counted, done⟩ := bind_eq_ok_iff.mp more
      cases done
      exact ⟨full, first, number, headed, counted, rfl⟩
    rintro (⟨count, stop, said, refused⟩ | ⟨count, start, boxes, place, begun, passed, fewer, crashed⟩)
    · obtain ⟨full, first, number, headed, counted, rfl⟩ := behind said
      exact ⟨full, first, headed,
        crashes_behind.mpr ⟨number, stop, counted, crashes_bind.mpr (.inl refused)⟩⟩
    · obtain ⟨_, stop, said, more⟩ := bind_eq_ok_iff.mp begun
      obtain ⟨_, _, granted, done⟩ := bind_eq_ok_iff.mp more
      cases done
      obtain ⟨full, first, number, headed, counted, rfl⟩ := behind said
      refine ⟨full, first, headed, crashes_behind.mpr ⟨number, stop, counted, ?_⟩⟩
      refine crashes_bind.mpr (.inr ⟨(), start, granted, crashes_before.mpr ?_⟩)
      exact crashes_repeated.mpr ⟨boxes, place, passed, fewer, crashed⟩

theorem inside_counted {memory : Memory} {holds : Nat → Prop} {room : Nat → Reader IoFault Unit}
    (opens : opening memory header kind = some (opened room header)) :
    Inside memory nested holds header data kind ↔
      ∃ count start boxes place, opened room header data 0 = .ok (some count, start) ∧
        Passes nested data start boxes place ∧ boxes.length < count ∧ holds place := by
  constructor
  · rintro ⟨reader, limit, start, boxes, place, same, begun, passed, fewer, held⟩
    rw [opens] at same
    cases same
    obtain ⟨count, stop, _, more⟩ := bind_eq_ok_iff.mp begun
    obtain ⟨_, _, _, done⟩ := bind_eq_ok_iff.mp more
    cases done
    exact ⟨count, start, boxes, place, begun, passed, fewer count rfl, held⟩
  · rintro ⟨count, start, boxes, place, begun, passed, fewer, held⟩
    refine ⟨_, some count, start, boxes, place, opens, begun, passed, ?_, held⟩
    intro number same
    cases same
    exact fewer

/-- The references grow while they are read. -/
theorem crashes_dref {memory : Memory} :
    Crashes (do
      return DynBox.dref (← (counted nested (fun _ => pure ()) Dref.mk header).parse data)) ↔
      PayloadCrashes memory nested (fun place => Crashes (nested data place)) header data .dref := by
  rw [crashes_map, crashes_counted, payloadCrashes_iff_inside rfl (by decide) (by decide),
    inside_counted rfl]
  apply or_iff_right
  rintro ⟨_, _, _, impossible⟩
  exact not_crashes_ok _ impossible

/-- The descriptions are allocated before the first of them is read. -/
theorem crashes_stsd {memory : Memory} :
    Crashes (do
      return DynBox.stsd (←
        (counted nested (allocate memory header.boxType) Stsd.mk header).parse data)) ↔
      PayloadCrashes memory nested (fun place => Crashes (nested data place)) header data .stsd := by
  rw [crashes_map, crashes_counted]
  simp only [crashes_allocate]
  constructor
  · rintro (⟨count, stop, said, refused⟩ | inside)
    · exact .inr (.inr (.inl ⟨_, count, stop, rfl, said, refused⟩))
    · exact .inr (.inr (.inr ((inside_counted rfl).mpr inside)))
  · rintro (⟨impossible, _⟩ | ⟨impossible, _⟩ | ⟨_, count, stop, same, said, refused⟩ | inside)
    · cases impossible
    · cases impossible
    · cases same
      exact .inl ⟨count, stop, said, refused⟩
    · exact .inr ((inside_counted rfl).mp inside)

/-- A box with the fields of a sample entry in front of the boxes inside it. -/
theorem crashes_entered {memory : Memory} {Extension : Type} [SampleEntryExtension Extension]
    [Returns (SampleEntry.demux : Reader IoFault (SampleEntry Extension))]
    (moves : Consumes 1 nested) (ends : EndsWith nested data)
    {collect : SampleEntry Extension → List DynBox → Except IoFault β}
    (sorts : ∀ entry, Sorts (collect entry)) {inject : β → DynBox}
    (asksNothing : requests header kind = none)
    (opens : opening memory header kind = some (do
      let _ ← (SampleEntry.demux : Reader IoFault (SampleEntry Extension))
      return none)) (notFtyp : kind ≠ .ftyp) (notDinf : kind ≠ .dinf) :
    Crashes (do return inject (← (entered nested collect).parse data)) ↔
      PayloadCrashes memory nested (fun place => Crashes (nested data place)) header data kind := by
  rw [crashes_map, crashes_parse, entered, crashes_behind,
    payloadCrashes_iff_inside asksNothing notFtyp notDinf]
  constructor
  · rintro ⟨entry, start, read, crashed⟩
    obtain ⟨boxes, place, passed, crashed⟩ := (crashes_collected moves ends (sorts entry)).mp crashed
    refine ⟨_, none, start, boxes, place, opens, ?_, passed, unlimited, crashed⟩
    rw [bind_ok read]
    rfl
  · rintro ⟨reader, limit, start, boxes, place, same, begun, passed, _, crashed⟩
    rw [opens] at same
    cases same
    obtain ⟨entry, first, read, done⟩ := bind_eq_ok_iff.mp begun
    cases done
    exact ⟨entry, start, read,
      (crashes_collected moves ends (sorts entry)).mpr ⟨boxes, place, passed, crashed⟩⟩

theorem crashes_ftyp {holds : Nat → Prop} :
    Crashes (do return DynBox.ftyp (← BoxType.demux build header data)) ↔
      PayloadCrashes build.memory nested holds header data .ftyp := by
  rw [crashes_map]
  constructor
  · intro crashed
    rcases Ftyp.demux_cases header data with ⟨short, _⟩ | ⟨_, ftyp, read⟩
    · exact .inl ⟨rfl, short⟩
    · have read : BoxType.demux build header data = .ok ftyp := read
      rw [read] at crashed
      exact absurd crashed (not_crashes_ok _)
  · rintro (⟨_, short⟩ | ⟨impossible, _⟩ | ⟨_, _, _, impossible, _⟩ | inside)
    · rcases Ftyp.demux_cases header data with ⟨_, panics⟩ | ⟨long, _⟩
      · exact ⟨.panic, panics, rfl⟩
      · exact absurd short (Nat.not_lt.mpr long)
    · cases impossible
    · cases impossible
    · exact absurd inside (not_inside rfl)

theorem crashes_dinf {memory : Memory} (moves : Consumes 1 nested) (ends : EndsWith nested data) :
    Crashes (do return DynBox.dinf (← (collected nested (collectDinf header)).parse data)) ↔
      PayloadCrashes memory nested (fun place => Crashes (nested data place)) header data .dinf := by
  rw [crashes_map, crashes_parse]
  unfold collected
  rw [crashes_bind, crashes_untilEnd moves ends]
  simp only [crashes_ofExcept, crashes_collectDinf]
  constructor
  · rintro (⟨boxes, place, passed, crashed⟩ | ⟨boxes, stop, read, absent⟩)
    · exact .inr (.inr (.inr ⟨_, none, 0, boxes, place, rfl, rfl, passed, unlimited, crashed⟩))
    · obtain ⟨passed, reached⟩ := (untilEnd_eq_ok_iff moves ends).mp read
      exact .inr (.inl ⟨rfl, boxes, stop, passed, reached, absent⟩)
  · rintro (⟨impossible, _⟩ | ⟨_, boxes, stop, passed, reached, absent⟩ | ⟨_, _, _, impossible, _⟩ |
      ⟨_, _, start, boxes, place, same, begun, passed, _, crashed⟩)
    · cases impossible
    · exact .inr ⟨boxes, stop, (untilEnd_eq_ok_iff moves ends).mpr ⟨passed, reached⟩, absent⟩
    · cases impossible
    · cases same
      cases begun
      exact .inl ⟨boxes, place, passed, crashed⟩

theorem crashes_ofKind (moves : Consumes 1 nested) (ends : EndsWith nested data) :
    Crashes (ofKind build nested header data kind) ↔
      PayloadCrashes build.memory nested (fun place => Crashes (nested data place)) header data
        kind := by
  cases kind with
  | ftyp => exact crashes_ftyp
  | dinf => exact crashes_dinf moves ends
  | moov => exact crashes_container moves ends sorts_moov rfl rfl (by decide) (by decide)
  | mvex => exact crashes_container moves ends sorts_mvex rfl rfl (by decide) (by decide)
  | trak => exact crashes_container moves ends sorts_trak rfl rfl (by decide) (by decide)
  | mdia => exact crashes_container moves ends sorts_mdia rfl rfl (by decide) (by decide)
  | edts => exact crashes_container moves ends sorts_edts rfl rfl (by decide) (by decide)
  | minf => exact crashes_container moves ends sorts_minf rfl rfl (by decide) (by decide)
  | stbl => exact crashes_container moves ends sorts_stbl rfl rfl (by decide) (by decide)
  | moof => exact crashes_container moves ends sorts_moof rfl rfl (by decide) (by decide)
  | traf => exact crashes_container moves ends sorts_traf rfl rfl (by decide) (by decide)
  | dref => exact crashes_dref
  | stsd => exact crashes_stsd
  | avc1 => exact crashes_entered moves ends sorts_avc1 rfl rfl (by decide) (by decide)
  | hev1 => exact crashes_entered moves ends sorts_hev1 rfl rfl (by decide) (by decide)
  | av01 => exact crashes_entered moves ends sorts_av01 rfl rfl (by decide) (by decide)
  | mp4a => exact crashes_entered moves ends sorts_mp4a rfl rfl (by decide) (by decide)
  | opus => exact crashes_entered moves ends sorts_opus rfl rfl (by decide) (by decide)
  | stts | ctts | stsc | stco | co64 | stss | stsh | elst =>
      exact crashes_table asks_readTable.map rfl rfl (by decide) (by decide)
  | stsz =>
      refine crashes_table (.bind fun _ => .bind fun _ => .bind fun _ => .allocate) rfl rfl ?_ ?_ <;>
        decide
  | stz2 =>
      refine crashes_table (.bind fun _ => .bind fun _ => .bind fun _ => .bind fun _ => .allocate)
        rfl rfl ?_ ?_ <;> decide
  | padb | subs =>
      exact crashes_table (.bind fun _ => .bind fun _ => .allocate) rfl rfl (by decide) (by decide)
  | sbgp =>
      exact crashes_table (.bind fun _ => .bind fun _ => .bind fun _ => .allocate) rfl rfl (by decide)
        (by decide)
  | trun =>
      exact crashes_table
        (.bind fun _ => .bind fun _ => .bind fun _ => .bind fun _ => .allocate) rfl rfl (by decide)
        (by decide)
  | _ => exact crashes_plain rfl rfl (by decide) (by decide)

end Payloads

/-! ## Readers that agree on a payload -/

section Agreement

variable {build : Build} {first second : Reader IoFault DynBox} {header : BoxHeader}
  {data : Bytes} {position : Nat} {β : Type}

theorem collected_congr (same : ∀ position, first data position = second data position)
    (collect : List DynBox → Except IoFault β) :
    collected first collect data position = collected second collect data position := by
  unfold collected
  simp only [bind_apply, untilEnd_congr same]

theorem counted_congr (same : ∀ position, first data position = second data position)
    (room : Nat → Reader IoFault Unit) (make : FullBoxHeader → List DynBox → β) :
    (counted first room make header).parse data = (counted second room make header).parse data := by
  unfold counted Reader.parse
  simp only [bind_apply, repeated_congr same]

theorem entered_congr {Extension : Type} [SampleEntryExtension Extension]
    (same : ∀ position, first data position = second data position)
    (collect : SampleEntry Extension → List DynBox → Except IoFault β) :
    (entered first collect).parse data = (entered second collect).parse data := by
  unfold entered Reader.parse
  simp only [bind_apply, collected_congr same]

theorem ofKind_congr (same : ∀ position, first data position = second data position)
    (kind : BoxKind) :
    ofKind build first header data kind = ofKind build second header data kind := by
  have sorted {β : Type} (collect : List DynBox → Except IoFault β) :
      (collected first collect).parse data = (collected second collect).parse data := by
    unfold Reader.parse
    rw [collected_congr same]
  cases kind with
  | moov | mvex | trak | mdia | edts | minf | dinf | stbl | moof | traf =>
      exact congrArg (· >>= _) (sorted _)
  | dref | stsd => exact congrArg (· >>= _) (counted_congr same _ _)
  | avc1 | hev1 | av01 | mp4a | opus => exact congrArg (· >>= _) (entered_congr same _)
  | _ => rfl

theorem ofData_congr (same : ∀ position, first data position = second data position) :
    ofData build first header data = ofData build second header data := by
  unfold ofData
  split
  · exact ofKind_congr same _
  · rfl

end Agreement

section Reading

variable {build : Build} {buffer : Bytes} {position : Nat}

/-- A depth beyond the length of the buffer is never used up. -/
theorem demuxWithin_enough {depth other : Nat} (enough : buffer.length < depth)
    (also : buffer.length < other) :
    demuxWithin build depth buffer position = demuxWithin build other buffer position := by
  induction depth generalizing other buffer position with
  | zero => cases enough
  | succ depth ih =>
      cases other with
      | zero => cases also
      | succ other =>
          rw [demuxWithin_succ, demuxWithin_succ, bind_apply, bind_apply]
          cases cut : BoxHeader.demux build.checks buffer position with
          | error fault => rfl
          | ok result =>
              obtain ⟨⟨header, data⟩, stop⟩ := result
              have shorter := (BoxHeader.demux_eq_ok cut).2
              have same : ofData build (demuxWithin build depth) header data =
                  ofData build (demuxWithin build other) header data :=
                ofData_congr fun _ => ih (by omega) (by omega)
              exact congrArg (ofExcept · buffer stop) same

/-- Read one box, with the boxes inside it read the same way. -/
theorem demux_eq : demux build buffer position = (do
    let (header, data) ← BoxHeader.demux build.checks
    ofExcept (ofData build (demux build) header data) : Reader IoFault DynBox) buffer position := by
  unfold demux
  rw [demuxWithin_succ, bind_apply, bind_apply]
  cases cut : BoxHeader.demux build.checks buffer position with
  | error fault => rfl
  | ok result =>
      obtain ⟨⟨header, data⟩, stop⟩ := result
      have shorter := (BoxHeader.demux_eq_ok cut).2
      have same : ofData build (demuxWithin build buffer.length) header data =
          ofData build (demux build) header data :=
        ofData_congr fun _ => demuxWithin_enough shorter (Nat.lt_succ_self _)
      exact congrArg (ofExcept · buffer stop) same

theorem consumes_demux : Consumes 1 (demux build) := by
  intro buffer position box stop read
  rw [demux_eq] at read
  obtain ⟨⟨header, data⟩, middle, cut, more⟩ := bind_eq_ok_iff.mp read
  have onwards := Consumes.ofExcept _ _ _ _ _ more
  have moved := (BoxHeader.demux_eq_ok cut).1
  omega

theorem demux_endsWith : EndsWith (demux build) buffer := by
  intro position beyond
  have ends : EndsWith (BoxHeader.demux build.checks) buffer := BoxHeader.demux_endsWith
  obtain ⟨fault, failed, returned⟩ := ends position beyond
  exact ⟨fault, demux_eq.trans (bind_error failed _), returned⟩

end Reading

/-! ## Boxes -/

/-- The reader comes to a box that it cannot survive: the box at the position, or one inside
it in front of which all boxes are accepted. -/
inductive Traps (build : Build) : Bytes → Nat → Prop where
  | undersized {buffer : Bytes} {position : Nat} (on : build.checks = .on)
      (small : BoxHeader.Undersized buffer position) : Traps build buffer position
  | fileType {buffer data : Bytes} {position stop : Nat} {header : BoxHeader}
      (cut : BoxHeader.demux build.checks buffer position = .ok ((header, data), stop))
      (named : BoxKind.ofName header.boxType = some .ftyp) (short : data.length < 8) :
      Traps build buffer position
  | noReference {buffer data : Bytes} {position stop : Nat} {header : BoxHeader}
      (cut : BoxHeader.demux build.checks buffer position = .ok ((header, data), stop))
      (named : BoxKind.ofName header.boxType = some .dinf)
      (absent : NoReference (demux build) data) : Traps build buffer position
  | tooMany {buffer data : Bytes} {position stop : Nat} {header : BoxHeader} {kind : BoxKind}
      (cut : BoxHeader.demux build.checks buffer position = .ok ((header, data), stop))
      (named : BoxKind.ofName header.boxType = some kind)
      (refused : TooMany build.memory header data kind) : Traps build buffer position
  | inside {buffer data : Bytes} {position stop start place : Nat} {header : BoxHeader}
      {kind : BoxKind} {reader : Reader IoFault (Option Nat)} {limit : Option Nat}
      {boxes : List DynBox}
      (cut : BoxHeader.demux build.checks buffer position = .ok ((header, data), stop))
      (named : BoxKind.ofName header.boxType = some kind)
      (opens : opening build.memory header kind = some reader) (begun : reader data 0 = .ok (limit, start))
      (passed : Passes (demux build) data start boxes place)
      (fewer : ∀ count, limit = some count → boxes.length < count)
      (trap : Traps build data place) : Traps build buffer position

section Crashing

variable {build : Build} {buffer : Bytes} {position : Nat}

/-- A box crashes the reader by its header or by its payload. -/
theorem crashes_demux : Crashes (demux build buffer position) ↔
    (build.checks = .on ∧ BoxHeader.Undersized buffer position) ∨
      ∃ header data stop kind,
        BoxHeader.demux build.checks buffer position = .ok ((header, data), stop) ∧
          BoxKind.ofName header.boxType = some kind ∧
            PayloadCrashes build.memory (demux build) (fun place => Crashes (demux build data place)) header
              data kind := by
  rw [demux_eq, crashes_bind, BoxHeader.crashes_demux]
  apply or_congr_right
  simp only [crashes_ofExcept]
  constructor
  · rintro ⟨⟨header, data⟩, stop, cut, crashed⟩
    unfold ofData at crashed
    split at crashed
    · rename_i kind named
      exact ⟨header, data, stop, kind, cut, named,
        (crashes_ofKind consumes_demux demux_endsWith).mp crashed⟩
    · exact absurd crashed (not_crashes_ok _)
  · rintro ⟨header, data, stop, kind, cut, named, crashed⟩
    refine ⟨(header, data), stop, cut, ?_⟩
    unfold ofData
    rw [named]
    exact (crashes_ofKind consumes_demux demux_endsWith).mpr crashed

theorem traps_of_crashes (crashed : Crashes (demux build buffer position)) :
    Traps build buffer position := by
  -- The payload that holds the box that crashed is shorter than the buffer.
  induction size : buffer.length using Nat.strong_induction_on generalizing buffer position with
  | _ size ih =>
      rcases crashes_demux.mp crashed with ⟨on, small⟩ | ⟨header, data, stop, kind, cut, named, how⟩
      · exact .undersized on small
      · have shorter := (BoxHeader.demux_eq_ok cut).2
        rcases how with ⟨rfl, short⟩ | ⟨rfl, absent⟩ | refused | ⟨reader, limit, start, boxes, place, opens,
          begun, passed, fewer, crashed⟩
        · exact .fileType cut named short
        · exact .noReference cut named absent
        · exact .tooMany cut named refused
        · exact .inside cut named opens begun passed fewer
            (ih data.length (size ▸ shorter) crashed rfl)

theorem Traps.crashes (trap : Traps build buffer position) :
    Crashes (demux build buffer position) := by
  induction trap with
  | undersized on small => exact crashes_demux.mpr (.inl ⟨on, small⟩)
  | fileType cut named short =>
      exact crashes_demux.mpr (.inr ⟨_, _, _, _, cut, named, .inl ⟨rfl, short⟩⟩)
  | noReference cut named absent =>
      exact crashes_demux.mpr (.inr ⟨_, _, _, _, cut, named, .inr (.inl ⟨rfl, absent⟩)⟩)
  | tooMany cut named refused =>
      exact crashes_demux.mpr (.inr ⟨_, _, _, _, cut, named, .inr (.inr (.inl refused))⟩)
  | inside cut named opens begun passed fewer _ ih =>
      exact crashes_demux.mpr (.inr ⟨_, _, _, _, cut, named,
        .inr (.inr (.inr ⟨_, _, _, _, _, opens, begun, passed, fewer, ih⟩))⟩)

end Crashing

/-- The box reader returns a box or an error exactly when it comes to none of the boxes that
it cannot survive. -/
theorem demux_returns_iff (build : Build) (buffer : Bytes) (position : Nat) :
    (∀ fault, demux build buffer position = .error fault → fault.isReturned = true) ↔
      ¬Traps build buffer position := by
  rw [← not_crashes_iff]
  exact not_congr ⟨traps_of_crashes, Traps.crashes⟩

/-- Sixteen bytes that announce 2 ^ 32 - 1 chunk offsets, where there is room for 2 ^ 16. -/
example : Traps ⟨.off, ⟨fun _ => some (2 ^ 16)⟩⟩
    [0, 0, 0, 16, 0x73, 0x74, 0x63, 0x6F, 0, 0, 0, 0, 0xFF, 0xFF, 0xFF, 0xFF] 0 :=
  .tooMany rfl (rfl : _ = some BoxKind.stco) ⟨_, 2 ^ 32 - 1, _, rfl, rfl, 2 ^ 16, rfl, by decide⟩

/-- A file type box without a payload panics. -/
theorem emptyFileType_panics : ¬∀ (checks : OverflowChecks) buffer position fault,
    demux checks buffer position = .error fault → fault.isReturned = true := by
  intro all
  have panics : demux OverflowChecks.off [0, 0, 0, 8, 0x66, 0x74, 0x79, 0x70] 0 = .error .panic :=
    rfl
  cases all _ _ _ _ panics

end DynBox

end ScuffleVideo.Mp4
