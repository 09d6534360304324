import ScuffleVideo.Mp4.ParsingSafety

/-!
# Boxes in a limited memory

How much room the allocator has decides only whether the reader of the boxes crashes.
Where it comes through, it returns what it returns where every table finds room, so what
is proved about reading there holds in every memory.
-/

namespace ScuffleVideo.Mp4

open Wire Wire.Reader

section Tables

variable {memory : Memory} {header : BoxHeader}

theorem restricts_allocate (boxType : FourCC) (count : Nat) :
    Restricts (allocate memory boxType count) (allocate .unlimited boxType count) := by
  intro buffer position
  by_cases refused : memory.Refuses boxType count
  · exact .inl (crashes_allocate.mpr refused)
  · refine .inr ?_
    unfold allocate
    cases found : memory.limit boxType with
    | none => rfl
    | some limit => exact congrFun (congrFun (if_neg fun less => refused ⟨limit, found, less⟩) _) _

theorem restricts_readTable {α : Type} (readEntry : FullBoxHeader → Reader IoFault α) :
    Restricts (readTable memory header readEntry) (readTable .unlimited header readEntry) :=
  .behind fun _ => .behind fun _ => (restricts_allocate _ _).before

end Tables

namespace DynBox

variable {checks : OverflowChecks} {memory : Memory}

section Payloads

variable {nested whole : Reader IoFault DynBox} {header : BoxHeader} {data : Bytes} {β : Type}

theorem restricts_collected (inside : Restricts nested whole)
    (collect : List DynBox → Except IoFault β) :
    Restricts (collected nested collect) (collected whole collect) :=
  inside.untilEnd.before

theorem restricts_counted (inside : Restricts nested whole) {room wide : Nat → Reader IoFault Unit}
    (rooms : ∀ count, Restricts (room count) (wide count))
    (make : FullBoxHeader → List DynBox → β) :
    Restricts (counted nested room make header) (counted whole wide make header) :=
  .behind fun _ => .behind fun _ => (rooms _).bind fun _ => (inside.repeated _).before

theorem restricts_entered {Extension : Type} [SampleEntryExtension Extension]
    (inside : Restricts nested whole)
    (collect : SampleEntry Extension → List DynBox → Except IoFault β) :
    Restricts (entered nested collect) (entered whole collect) :=
  .behind fun entry => restricts_collected inside (collect entry)

/-- The payload of a box, with less room for the boxes inside it as well. -/
theorem orCrash_ofKind (inside : Restricts nested whole) (kind : BoxKind) :
    OrCrash (ofKind ⟨checks, memory⟩ nested header data kind)
      (ofKind checks whole header data kind) := by
  cases kind with
  | moov | mvex | trak | mdia | edts | minf | dinf | stbl | moof | traf =>
      exact ((restricts_collected inside _).parse data).map _
  | dref => exact ((restricts_counted inside (fun _ => .refl _) _).parse data).map _
  | stsd => exact ((restricts_counted inside (restricts_allocate _) _).parse data).map _
  | avc1 | hev1 | av01 | mp4a | opus => exact ((restricts_entered inside _).parse data).map _
  | stts | ctts | stsc | stco | co64 | stss | stsh | elst =>
      exact ((restricts_readTable _).before.parse data).map _
  | padb | subs =>
      exact (Restricts.parse (.behind fun _ => .behind fun _ => (restricts_allocate _ _).before)
        data).map _
  | stsz | sbgp =>
      exact (Restricts.parse (.behind fun _ => .behind fun _ => .behind fun _ =>
        (restricts_allocate _ _).before) data).map _
  | stz2 | trun =>
      exact (Restricts.parse (.behind fun _ => .behind fun _ => .behind fun _ => .behind fun _ =>
        (restricts_allocate _ _).before) data).map _
  | _ => exact .inr rfl

theorem orCrash_ofData (inside : Restricts nested whole) (header : BoxHeader) (data : Bytes) :
    OrCrash (ofData ⟨checks, memory⟩ nested header data) (ofData checks whole header data) := by
  unfold ofData
  cases BoxKind.ofName header.boxType with
  | none => exact .inr rfl
  | some kind => exact orCrash_ofKind inside kind

end Payloads

theorem restricts_demuxWithin (depth : Nat) :
    Restricts (demuxWithin ⟨checks, memory⟩ depth) (demuxWithin checks depth) := by
  induction depth with
  | zero => exact .refl _
  | succ depth ih => exact .behind fun cut => .ofExcept (orCrash_ofData ih cut.1 cut.2)

/-- Less memory changes nothing but that more readers crash. -/
theorem restricts_demux (checks : OverflowChecks) (memory : Memory) :
    Restricts (demux ⟨checks, memory⟩) (demux checks) :=
  fun buffer position => restricts_demuxWithin (buffer.length + 1) buffer position

/-- In every memory the reader crashes at a trap, and without one it returns what it
returns where every table finds room. -/
theorem demux_limited (checks : OverflowChecks) (memory : Memory) (buffer : Bytes)
    (position : Nat) :
    (Traps ⟨checks, memory⟩ buffer position ∧
        Crashes (demux ⟨checks, memory⟩ buffer position)) ∨
      (¬Traps ⟨checks, memory⟩ buffer position ∧
        demux ⟨checks, memory⟩ buffer position = demux checks buffer position) := by
  rcases restricts_demux checks memory buffer position with crashed | same
  · exact .inl ⟨traps_of_crashes crashed, crashed⟩
  · by_cases trap : Traps ⟨checks, memory⟩ buffer position
    · exact .inl ⟨trap, trap.crashes⟩
    · exact .inr ⟨trap, same⟩

end DynBox

end ScuffleVideo.Mp4
