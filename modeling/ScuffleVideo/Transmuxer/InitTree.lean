import ScuffleVideo.Mp4.TreeRoundTrip
import ScuffleVideo.Transmuxer.InitSegment

/-!
# The tree of an init segment

The movie around two sample entries.  Of the sample rate in the entry of the sound only the lower
half is written, and of the record of AV1 all but the range of the colours, so that the movie has
the bytes of one whose entries come back.  Around its entries the movie is short, and its other
boxes always come back.
-/

namespace ScuffleVideo.Transmux

open Wire Flv Mp4

/-! ## What an entry keeps -/

/-- An entry as it is read back. -/
def storedEntry : DynBox → DynBox
  | .av01 ⟨header, entry, ⟨av1cHeader, config⟩, btrt, unknown⟩ =>
      .av01 ⟨header, entry, ⟨av1cHeader, { config with hdrWcgIdc := 0 }⟩, btrt, unknown⟩
  | .mp4a ⟨header, ⟨reserved, index, entry⟩, esds, btrt, unknown⟩ =>
      .mp4a ⟨header, ⟨reserved, index, { entry with
        sampleRate := entry.sampleRate % 0x10000 }⟩, esds, btrt, unknown⟩
  | entry => entry

theorem shiftLeft_mod (rate : UInt32) : (rate % 0x10000) <<< 16 = rate <<< 16 := by
  rw [← UInt32.toNat_inj, UInt32.toNat_shiftLeft, UInt32.toNat_shiftLeft, UInt32.toNat_mod,
    Nat.shiftLeft_eq, Nat.shiftLeft_eq]
  change rate.toNat % 65536 * 2 ^ 16 % 2 ^ 32 = rate.toNat * 2 ^ 16 % 2 ^ 32
  omega

theorem muxAudio_stored (reserved : Vector UInt8 6) (index : UInt16) (entry : AudioSampleEntry) :
    SampleEntry.mux ⟨reserved, index, { entry with sampleRate := entry.sampleRate % 0x10000 }⟩ =
      SampleEntry.mux ⟨reserved, index, entry⟩ := by
  have same : ({ entry with sampleRate := entry.sampleRate % 0x10000 } :
      AudioSampleEntry).fields = entry.fields := by
    unfold AudioSampleEntry.fields
    rw [shiftLeft_mod]
  unfold SampleEntry.mux
  change (do SampleEntry.validate _; let extension ← Except.ok _; return _) = _
  rw [same]
  rfl

theorem mux_storedEntry (entry : DynBox) : DynBox.mux (storedEntry entry) = DynBox.mux entry := by
  cases entry with
  | av01 box =>
      obtain ⟨header, entry, ⟨av1cHeader, config⟩, btrt, unknown⟩ := box
      rfl
  | mp4a box =>
      obtain ⟨header, ⟨reserved, index, entry⟩, esds, btrt, unknown⟩ := box
      have fields := muxAudio_stored reserved index entry
      simp only [storedEntry, DynBox.mux, DynBox.primitiveMuxMp4a, DynBox.primitiveSizeMp4a, fields]
      rfl
  | _ box => rfl

theorem size_storedEntry (entry : DynBox) :
    DynBox.size (storedEntry entry) = DynBox.size entry := by
  cases entry with
  | av01 box =>
      obtain ⟨header, entry, ⟨av1cHeader, config⟩, btrt, unknown⟩ := box
      rfl
  | mp4a box =>
      obtain ⟨header, ⟨reserved, index, entry⟩, esds, btrt, unknown⟩ := box
      rfl
  | _ => rfl

/-! ## The same bytes -/

section

variable {entry other : DynBox} (sameMux : DynBox.mux other = DynBox.mux entry)
  (sameSize : DynBox.size other = DynBox.size entry)

include sameSize in
theorem sizeTables_congr : DynBox.primitiveSizeStbl (emptyTables other) =
    DynBox.primitiveSizeStbl (emptyTables entry) := by
  simp only [emptyTables, Stbl.new, Stsd.new, DynBox.primitiveSizeStbl, DynBox.primitiveSizeStsd,
    DynBox.sizes, sameSize]

include sameMux sameSize in
theorem muxTables_congr : DynBox.primitiveMuxStbl (emptyTables other) =
    DynBox.primitiveMuxStbl (emptyTables entry) := by
  simp only [emptyTables, Stbl.new, Stsd.new, DynBox.primitiveMuxStbl, DynBox.primitiveMuxStsd,
    DynBox.primitiveSizeStsd, DynBox.sizes, DynBox.muxAll, sameSize, sameMux, Stsd.validate,
    List.length_cons]

variable (tkhd : Tkhd) (timescale : UInt32) (handler : HandlerType) (name : String)
  (vmhd : Option Vmhd) (smhd : Option Smhd)

include sameSize in
theorem sizeTrak_congr :
    DynBox.primitiveSizeTrak (trakOf tkhd timescale handler name other vmhd smhd) =
      DynBox.primitiveSizeTrak (trakOf tkhd timescale handler name entry vmhd smhd) := by
  simp only [trakOf, Trak.new, Mdia.new, Minf.new, DynBox.primitiveSizeTrak,
    DynBox.primitiveSizeMdia, DynBox.primitiveSizeMinf, sizeTables_congr sameSize]

include sameMux sameSize in
theorem muxTrak_congr :
    DynBox.primitiveMuxTrak (trakOf tkhd timescale handler name other vmhd smhd) =
      DynBox.primitiveMuxTrak (trakOf tkhd timescale handler name entry vmhd smhd) := by
  simp only [trakOf, Trak.new, Mdia.new, Minf.new, DynBox.primitiveMuxTrak,
    DynBox.primitiveMuxMdia, DynBox.primitiveMuxMinf, DynBox.primitiveSizeMdia,
    DynBox.primitiveSizeMinf, sizeTables_congr sameSize, muxTables_congr sameMux sameSize]

end

section

variable (pictureTkhd soundTkhd : Tkhd) (timescale sampleRate : UInt32) (picture sound : DynBox)

/-- The movie as it comes back. -/
def storedMovie : Moov DynBox :=
  movieOf pictureTkhd soundTkhd timescale sampleRate (storedEntry picture) (storedEntry sound)

theorem sizeMovie_stored :
    DynBox.primitiveSizeMoov
        (storedMovie pictureTkhd soundTkhd timescale sampleRate picture sound) =
      DynBox.primitiveSizeMoov
        (movieOf pictureTkhd soundTkhd timescale sampleRate picture sound) := by
  simp only [storedMovie, movieOf, Moov.new, DynBox.primitiveSizeMoov, DynBox.sizeTraks,
    sizeTrak_congr (size_storedEntry picture), sizeTrak_congr (size_storedEntry sound)]

/-- The movie is written as the one that comes back is. -/
theorem muxMovie_stored :
    DynBox.mux (.moov (storedMovie pictureTkhd soundTkhd timescale sampleRate picture sound)) =
      DynBox.mux (.moov (movieOf pictureTkhd soundTkhd timescale sampleRate picture sound)) := by
  have payload : DynBox.primitiveMuxMoov
      (storedMovie pictureTkhd soundTkhd timescale sampleRate picture sound) =
        DynBox.primitiveMuxMoov
          (movieOf pictureTkhd soundTkhd timescale sampleRate picture sound) := by
    simp only [storedMovie, movieOf, Moov.new, DynBox.primitiveMuxMoov, DynBox.muxTraks,
      sizeTrak_congr (size_storedEntry picture), sizeTrak_congr (size_storedEntry sound),
      muxTrak_congr (mux_storedEntry picture) (size_storedEntry picture),
      muxTrak_congr (mux_storedEntry sound) (size_storedEntry sound)]
  simp only [DynBox.mux, payload, sizeMovie_stored]

end

/-! ## The boxes of the tree -/

open DynBox (Everywhere everywhere_iff everywhere_leaf)

theorem sorts_alone {kind : BoxKind} {known : List BoxKind} {header : BoxHeader}
    (named : header = ⟨kind.name⟩) : DynBox.Sorted kind known header [] :=
  ⟨named, List.forall_mem_nil _⟩

theorem plain_videoHandler : Terminable "VideoHandler" ∧ Ascii "VideoHandler" := by
  unfold Terminable Ascii
  simp

theorem plain_soundHandler : Terminable "SoundHandler" ∧ Ascii "SoundHandler" := by
  unfold Terminable Ascii
  simp

section

variable {holds : DynBox → Prop}
  (plain : ∀ box, DynBox.Fits box → ¬DynBox.Overstated box → holds box)

include plain

theorem everywhere_url : Everywhere holds (.url .new) := by
  refine everywhere_leaf rfl (plain _ ⟨rfl, fun location found => ?_⟩ id)
  cases found

theorem everywhere_dinf : Everywhere holds (.dinf (.new (.url .new))) := by
  refine (everywhere_iff _).mpr ⟨plain _ (sorts_alone rfl) id, List.forall_mem_singleton.mpr ?_⟩
  refine (everywhere_iff _).mpr ⟨plain _ ⟨rfl, ?_⟩ id,
    List.forall_mem_singleton.mpr (everywhere_url plain)⟩
  change 1 < 2 ^ 32
  decide

theorem everywhere_tables {entry : DynBox} (inner : Everywhere holds entry) :
    Everywhere holds (.stbl (emptyTables entry)) := by
  have none {β : Type} (holds : β → Prop) :
      ([] : List β).length < 2 ^ 32 ∧ ∀ value ∈ [], holds value :=
    ⟨Nat.two_pow_pos 32, List.forall_mem_nil _⟩
  have stsd : Everywhere holds (.stsd (.new [entry])) := by
    refine (everywhere_iff _).mpr ⟨plain _ ⟨rfl, ?_⟩ id, List.forall_mem_singleton.mpr inner⟩
    change 1 < 2 ^ 32
    decide
  have stts : Everywhere holds (.stts (.new [])) := everywhere_leaf rfl (plain _ ⟨rfl, none _⟩ id)
  have stsc : Everywhere holds (.stsc (.new [])) := everywhere_leaf rfl (plain _ ⟨rfl, none _⟩ id)
  have stsz : Everywhere holds (.stsz (.new 0 [])) :=
    everywhere_leaf rfl (plain _ ⟨rfl, by decide⟩ id)
  have stco : Everywhere holds (.stco (.new [])) := everywhere_leaf rfl (plain _ ⟨rfl, none _⟩ id)
  refine (everywhere_iff _).mpr ⟨plain _ (sorts_alone rfl) id, ?_⟩
  simp only [DynBox.parts, emptyTables, Stbl.new, Option.toList_none, Option.toList_some,
    List.map_nil, List.map_cons, List.append_nil, List.cons_append, List.nil_append,
    List.forall_mem_cons]
  exact ⟨stsd, stts, stsc, stsz, stco, List.forall_mem_nil _⟩

theorem everywhere_trak {entry : DynBox} (inner : Everywhere holds entry) {tkhd : Tkhd}
    (named : tkhd.header.header = ⟨Tkhd.name⟩) (timescale : UInt32) {handler : HandlerType}
    (canonical : handler.Canonical) {name : String} (ordinary : Terminable name ∧ Ascii name)
    {vmhd : Option Vmhd} (video : ∀ box ∈ vmhd, Everywhere holds (.vmhd box))
    {smhd : Option Smhd} (audio : ∀ box ∈ smhd, Everywhere holds (.smhd box)) :
    Everywhere holds (.trak (trakOf tkhd timescale handler name entry vmhd smhd)) := by
  have minf : Everywhere holds (.minf (.new (.url .new) (emptyTables entry) vmhd smhd)) := by
    refine (everywhere_iff _).mpr ⟨plain _ (sorts_alone rfl) id, ?_⟩
    simp only [DynBox.parts, Minf.new, Option.toList_none, List.map_nil, List.append_nil,
      List.forall_mem_append, List.forall_mem_map, List.forall_mem_singleton, Option.mem_toList]
    exact ⟨⟨⟨video, audio⟩, everywhere_dinf plain⟩, everywhere_tables plain inner⟩
  have mdia : Everywhere holds (.mdia (.new (.new 0 0 timescale 0) (.new handler name)
      (.new (.url .new) (emptyTables entry) vmhd smhd))) := by
    refine (everywhere_iff _).mpr ⟨plain _ (sorts_alone rfl) id, ?_⟩
    simp only [DynBox.parts, Mdia.new, List.append_nil, List.forall_mem_append,
      List.forall_mem_singleton]
    exact ⟨⟨everywhere_leaf rfl (plain _ rfl id),
      everywhere_leaf rfl (plain _ ⟨rfl, canonical, ordinary⟩ id)⟩, minf⟩
  refine (everywhere_iff _).mpr ⟨plain _ (sorts_alone rfl) id, ?_⟩
  simp only [DynBox.parts, trakOf, Trak.new, Option.toList_none, List.map_nil, List.append_nil,
    List.forall_mem_append, List.forall_mem_singleton]
  exact ⟨everywhere_leaf rfl (plain _ named id), mdia⟩

/-- What holds of boxes that fit holds everywhere in a movie, if it does in its two entries. -/
theorem everywhere_movie {pictureTkhd soundTkhd : Tkhd} {picture sound : DynBox}
    (pictureNamed : pictureTkhd.header.header = ⟨Tkhd.name⟩)
    (soundNamed : soundTkhd.header.header = ⟨Tkhd.name⟩) (timescale sampleRate : UInt32)
    (pictureInner : Everywhere holds picture) (soundInner : Everywhere holds sound) :
    Everywhere holds
      (.moov (movieOf pictureTkhd soundTkhd timescale sampleRate picture sound)) := by
  have pictureTrak := @everywhere_trak holds plain picture pictureInner pictureTkhd pictureNamed
    timescale .vide trivial "VideoHandler" plain_videoHandler (some .new)
    (fun box same => by cases same; exact everywhere_leaf rfl (plain _ rfl id)) none nofun
  have soundTrak := @everywhere_trak holds plain sound soundInner soundTkhd soundNamed sampleRate
    .soun trivial "SoundHandler" plain_soundHandler none nofun (some .new)
    (fun box same => by cases same; exact everywhere_leaf rfl (plain _ rfl id))
  have mvex : Everywhere holds (.mvex (.new [.new 1, .new 2] none)) := by
    refine (everywhere_iff _).mpr ⟨plain _ (sorts_alone rfl) id, ?_⟩
    simp only [DynBox.parts, Mvex.new, List.map_cons, List.map_nil, Option.toList_none,
      List.append_nil, List.forall_mem_cons]
    exact ⟨everywhere_leaf rfl (plain _ rfl id), everywhere_leaf rfl (plain _ rfl id),
      List.forall_mem_nil _⟩
  refine (everywhere_iff _).mpr ⟨plain _ (sorts_alone rfl) id, ?_⟩
  simp only [DynBox.parts, movieOf, Moov.new, List.map_cons, List.map_nil, Option.toList_some,
    List.append_nil, List.cons_append, List.nil_append, List.forall_mem_cons]
  exact ⟨everywhere_leaf rfl (plain _ rfl id), pictureTrak, soundTrak, mvex,
    List.forall_mem_nil _⟩

end

/-! ## Sizes -/

theorem sizeTables_le (entry : DynBox) :
    DynBox.primitiveSizeStbl (emptyTables entry) ≤ DynBox.size entry + 100 := by
  have tables : BoxType.size (Stts.new []) = 16 ∧ BoxType.size (Stsc.new []) = 16 ∧
      BoxType.size (Stsz.new 0 []) = 20 ∧ BoxType.size (Stco.new []) = 16 := by decide
  have stsd := boxSize_le (DynBox.primitiveSizeStsd (.new [entry]))
  have inner : DynBox.primitiveSizeStsd (.new [entry]) = 8 + (DynBox.size entry + 0) := by
    simp only [Stsd.new, DynBox.primitiveSizeStsd, DynBox.sizes]
    rfl
  simp only [emptyTables, Stbl.new, DynBox.primitiveSizeStbl, sizeOption, DynBox.sizes]
  omega

theorem size_tkhd_le (tkhd : Tkhd) : BoxType.size tkhd ≤ 112 := by
  have outer := boxSize_le tkhd.primitiveSize
  have inner : tkhd.primitiveSize ≤ 96 := by
    have header : tkhd.header.size = 4 := rfl
    unfold Tkhd.primitiveSize
    split <;> omega
  exact Nat.le_trans outer (Nat.add_le_add_right inner 16)

theorem sizeTrak_le (tkhd : Tkhd) (timescale : UInt32) (handler : HandlerType) (name : String)
    (entry : DynBox) (vmhd : Option Vmhd) (smhd : Option Smhd) :
    DynBox.primitiveSizeTrak (trakOf tkhd timescale handler name entry vmhd smhd) ≤
      DynBox.size entry + BoxType.size (Hdlr.new handler name) + sizeOption vmhd +
        sizeOption smhd + 400 := by
  have tables := sizeTables_le entry
  have stbl := boxSize_le (DynBox.primitiveSizeStbl (emptyTables entry))
  have dinf : boxSize (DynBox.primitiveSizeDinf (.new (.url .new))) = 36 := by decide
  have mdhd : BoxType.size (Mdhd.new 0 0 timescale 0) = 32 := rfl
  have head := size_tkhd_le tkhd
  have minf := boxSize_le (DynBox.primitiveSizeMinf
    (.new (.url .new) (emptyTables entry) vmhd smhd))
  have minfSum : DynBox.primitiveSizeMinf (.new (.url .new) (emptyTables entry) vmhd smhd) =
      sizeOption vmhd + sizeOption smhd + 0 + 0 + boxSize (DynBox.primitiveSizeDinf
        (.new (.url .new))) + boxSize (DynBox.primitiveSizeStbl (emptyTables entry)) + 0 := by
    simp only [Minf.new, DynBox.primitiveSizeMinf, sizeOption, DynBox.sizes]
  have mdia := boxSize_le (DynBox.primitiveSizeMdia (.new (.new 0 0 timescale 0)
    (.new handler name) (.new (.url .new) (emptyTables entry) vmhd smhd)))
  have mdiaSum : DynBox.primitiveSizeMdia (.new (.new 0 0 timescale 0) (.new handler name)
      (.new (.url .new) (emptyTables entry) vmhd smhd)) =
        BoxType.size (Mdhd.new 0 0 timescale 0) + BoxType.size (Hdlr.new handler name) +
          boxSize (DynBox.primitiveSizeMinf (.new (.url .new) (emptyTables entry) vmhd smhd)) +
          0 := by
    simp only [Mdia.new, DynBox.primitiveSizeMdia, DynBox.sizes]
  simp only [trakOf, Trak.new, DynBox.primitiveSizeTrak, DynBox.sizeEdtsOption, DynBox.sizes]
  omega

theorem size_hdlr_le (handler : HandlerType) {name : String} (plain : Ascii name) :
    BoxType.size (Hdlr.new handler name) ≤ name.toList.length + 41 := by
  have outer : BoxType.size (Hdlr.new handler name) ≤
      4 + 4 + 4 + 3 * 4 + (asBytes name).length + 1 + 16 := boxSize_le _
  have same := (length_asBytes name).2.mpr plain
  omega

/-- Around its entries the movie is short. -/
theorem size_movie_le (pictureTkhd soundTkhd : Tkhd) (timescale sampleRate : UInt32)
    (picture sound : DynBox) :
    DynBox.size (.moov (movieOf pictureTkhd soundTkhd timescale sampleRate picture sound)) ≤
      DynBox.size picture + DynBox.size sound + 2000 := by
  have pictureTrak := sizeTrak_le pictureTkhd timescale .vide "VideoHandler" picture (some .new)
    none
  have soundTrak := sizeTrak_le soundTkhd sampleRate .soun "SoundHandler" sound none (some .new)
  have pictureHdlr := size_hdlr_le .vide plain_videoHandler.2
  have soundHdlr := size_hdlr_le .soun plain_soundHandler.2
  have names : "VideoHandler".toList.length = 12 ∧ "SoundHandler".toList.length = 12 := ⟨rfl, rfl⟩
  have vmhd : sizeOption (some Vmhd.new) = 20 ∧ sizeOption (none : Option Vmhd) = 0 := ⟨rfl, rfl⟩
  have smhd : sizeOption (some Smhd.new) = 16 ∧ sizeOption (none : Option Smhd) = 0 := ⟨rfl, rfl⟩
  have mvhd : BoxType.size (Mvhd.new 0 0 1000 0 1) = 108 := rfl
  have mvex : boxSize (DynBox.primitiveSizeMvex (.new [.new 1, .new 2] none)) = 72 := by decide
  have pictureBox := boxSize_le (DynBox.primitiveSizeTrak
    (trakOf pictureTkhd timescale .vide "VideoHandler" picture (some .new) none))
  have soundBox := boxSize_le (DynBox.primitiveSizeTrak
    (trakOf soundTkhd sampleRate .soun "SoundHandler" sound none (some .new)))
  have whole := boxSize_le (DynBox.primitiveSizeMoov
    (movieOf pictureTkhd soundTkhd timescale sampleRate picture sound))
  have sum : DynBox.primitiveSizeMoov
      (movieOf pictureTkhd soundTkhd timescale sampleRate picture sound) =
        BoxType.size (Mvhd.new 0 0 1000 0 1) + (boxSize (DynBox.primitiveSizeTrak
          (trakOf pictureTkhd timescale .vide "VideoHandler" picture (some .new) none)) +
            (boxSize (DynBox.primitiveSizeTrak
              (trakOf soundTkhd sampleRate .soun "SoundHandler" sound none (some .new))) + 0)) +
          boxSize (DynBox.primitiveSizeMvex (.new [.new 1, .new 2] none)) + 0 := by
    simp only [movieOf, Moov.new, DynBox.primitiveSizeMoov, DynBox.sizeTraks,
      DynBox.sizeMvexOption, DynBox.sizes]
  rw [DynBox.size]
  omega

end ScuffleVideo.Transmux
