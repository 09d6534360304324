import ScuffleVideo.Mp4.TreeRoundTrip

/-!
# Files read and written again

What is read as a tree of boxes fits its types almost everywhere, since reading gives the fields
no other values than their bytes can hold.  So a file that is read, written and read again is
the same after the first time, unless a box in it is lossy or overstates its size.
-/

namespace ScuffleVideo.Wire.Reader

variable {ε α : Type}

/-- A value that the reader returns for some bytes. -/
def Returned (reader : Reader ε α) (value : α) : Prop :=
  ∃ buffer position stop, reader buffer position = .ok (value, stop)

theorem Yields.returned (reader : Reader ε α) : Yields reader (Returned reader) :=
  fun buffer position stop _ read => ⟨buffer, position, stop, read⟩

theorem Yields.whileRemaining {reader : Reader ε α} {holds : α → Prop} (unfinished : ε)
    (yields : Yields reader holds) (rounds : Nat) :
    Yields (Reader.whileRemaining unfinished reader rounds) fun values =>
      ∀ value ∈ values, holds value := by
  induction rounds with
  | zero =>
      intro buffer position stop values read
      unfold Reader.whileRemaining at read
      split at read
      · cases read
      · cases read
        exact List.forall_mem_nil _
  | succ rounds ih =>
      intro buffer position stop values read
      unfold Reader.whileRemaining at read
      split at read
      · obtain ⟨value, middle, first, more⟩ := bind_eq_ok_iff.mp read
        obtain ⟨others, last, rest, same⟩ := bind_eq_ok_iff.mp more
        cases same
        exact List.forall_mem_cons.mpr ⟨yields _ _ _ _ first, ih _ _ _ _ rest⟩
      · cases read
        exact List.forall_mem_nil _

/-- What every record has, all records until the end have. -/
theorem Yields.untilEnd {reader : Reader ε α} {holds : α → Prop} (unfinished : ε)
    (yields : Yields reader holds) :
    Yields (Reader.untilEnd unfinished reader) fun values => ∀ value ∈ values, holds value :=
  fun buffer position stop values read =>
    yields.whileRemaining unfinished buffer.length buffer position stop values read

theorem Yields.ofExcept {result : Except ε α} {holds : α → Prop}
    (held : ∀ value, result = .ok value → holds value) :
    Yields (Reader.ofExcept result) holds := by
  intro buffer position stop value read
  exact held value (ok_of_ofExcept read).1

end ScuffleVideo.Wire.Reader

namespace ScuffleVideo.Mp4

open Wire Wire.Reader

namespace DynBox

/-! ## What sorting keeps -/

theorem apart_othersThan (known : List BoxKind) (boxes : List DynBox) :
    Apart known (othersThan known boxes) := by
  intro box member kind inside typed
  have passed := (List.mem_filter.mp member).2
  rw [typed] at passed
  simp [inside] at passed

theorem othersThan_subset (known : List BoxKind) (boxes : List DynBox) :
    othersThan known boxes ⊆ boxes := List.filter_subset_self boxes

section Picks

variable {β : Type} (pick : DynBox → Option β) {inject : β → DynBox} {kind : BoxKind}
  [picks : Picks pick inject kind] (boxes : List DynBox)

include picks

theorem filterMap_subset : (boxes.filterMap pick).map inject ⊆ boxes := by
  intro box member
  obtain ⟨value, found, rfl⟩ := List.mem_map.mp member
  obtain ⟨chosen, inside, picked⟩ := List.mem_filterMap.mp found
  rw [← picks.eq_of picked]
  exact inside

theorem lastOf_subset : (lastOf pick boxes).toList.map inject ⊆ boxes := by
  refine List.Subset.trans (List.map_subset _ fun value member => ?_) (filterMap_subset pick boxes)
  exact List.mem_of_getLast? (Option.mem_toList.mp member)

variable {pick boxes}

theorem mem_of_lastOf {value : β} (last : lastOf pick boxes = some value) :
    [inject value] ⊆ boxes := by
  have found := lastOf_subset pick boxes
  rw [last] at found
  exact found

theorem mem_of_required {message : String} {value : β}
    (found : required message (lastOf pick boxes) = .ok value) : [inject value] ⊆ boxes := by
  cases last : lastOf pick boxes with
  | none =>
      rw [last] at found
      cases found
  | some chosen =>
      rw [last] at found
      cases found
      exact mem_of_lastOf last

end Picks

theorem collectMoov_sorts {boxes : List DynBox} {box : Moov DynBox}
    (sorted : collectMoov ⟨Moov.name⟩ boxes = .ok box) :
    Fits (.moov box) ∧ parts (.moov box) ⊆ boxes := by
  obtain ⟨_, mvhdFound, same⟩ := sequence_eq_ok_iff.mp sorted
  cases same
  refine ⟨⟨rfl, apart_othersThan _ _⟩, ?_⟩
  simp only [parts, List.append_subset]
  exact ⟨⟨⟨mem_of_required mvhdFound, filterMap_subset asTrak boxes⟩, lastOf_subset asMvex boxes⟩,
    othersThan_subset _ _⟩

theorem collectMvex_sorts {boxes : List DynBox} {box : Mvex DynBox}
    (sorted : collectMvex ⟨Mvex.name⟩ boxes = .ok box) :
    Fits (.mvex box) ∧ parts (.mvex box) ⊆ boxes := by
  cases sorted
  refine ⟨⟨rfl, apart_othersThan _ _⟩, ?_⟩
  simp only [parts, List.append_subset]
  exact ⟨⟨filterMap_subset asTrex boxes, lastOf_subset asMehd boxes⟩, othersThan_subset _ _⟩

theorem collectTrak_sorts {boxes : List DynBox} {box : Trak DynBox}
    (sorted : collectTrak ⟨Trak.name⟩ boxes = .ok box) :
    Fits (.trak box) ∧ parts (.trak box) ⊆ boxes := by
  obtain ⟨_, tkhdFound, more⟩ := sequence_eq_ok_iff.mp sorted
  obtain ⟨_, mdiaFound, same⟩ := sequence_eq_ok_iff.mp more
  cases same
  refine ⟨⟨rfl, apart_othersThan _ _⟩, ?_⟩
  simp only [parts, List.append_subset]
  exact ⟨⟨⟨mem_of_required tkhdFound, lastOf_subset asEdts boxes⟩, mem_of_required mdiaFound⟩,
    othersThan_subset _ _⟩

theorem collectMdia_sorts {boxes : List DynBox} {box : Mdia DynBox}
    (sorted : collectMdia ⟨Mdia.name⟩ boxes = .ok box) :
    Fits (.mdia box) ∧ parts (.mdia box) ⊆ boxes := by
  obtain ⟨_, mdhdFound, more⟩ := sequence_eq_ok_iff.mp sorted
  obtain ⟨_, hdlrFound, more⟩ := sequence_eq_ok_iff.mp more
  obtain ⟨_, minfFound, same⟩ := sequence_eq_ok_iff.mp more
  cases same
  refine ⟨⟨rfl, apart_othersThan _ _⟩, ?_⟩
  simp only [parts, List.append_subset]
  exact ⟨⟨⟨mem_of_required mdhdFound, mem_of_required hdlrFound⟩, mem_of_required minfFound⟩,
    othersThan_subset _ _⟩

theorem collectEdts_sorts {boxes : List DynBox} {box : Edts DynBox}
    (sorted : collectEdts ⟨Edts.name⟩ boxes = .ok box) :
    Fits (.edts box) ∧ parts (.edts box) ⊆ boxes := by
  cases sorted
  refine ⟨⟨rfl, apart_othersThan _ _⟩, ?_⟩
  simp only [parts, List.append_subset]
  exact ⟨lastOf_subset asElst boxes, othersThan_subset _ _⟩

theorem collectMinf_sorts {boxes : List DynBox} {box : Minf DynBox}
    (sorted : collectMinf ⟨Minf.name⟩ boxes = .ok box) :
    Fits (.minf box) ∧ parts (.minf box) ⊆ boxes := by
  obtain ⟨_, dinfFound, more⟩ := sequence_eq_ok_iff.mp sorted
  obtain ⟨_, stblFound, same⟩ := sequence_eq_ok_iff.mp more
  cases same
  refine ⟨⟨rfl, apart_othersThan _ _⟩, ?_⟩
  simp only [parts, List.append_subset]
  exact ⟨⟨⟨⟨⟨⟨lastOf_subset asVmhd boxes, lastOf_subset asSmhd boxes⟩, lastOf_subset asHmhd boxes⟩,
    lastOf_subset asNmhd boxes⟩, mem_of_required dinfFound⟩, mem_of_required stblFound⟩,
    othersThan_subset _ _⟩

theorem collectDinf_sorts {boxes : List DynBox} {box : Dinf DynBox}
    (sorted : collectDinf ⟨Dinf.name⟩ boxes = .ok box) :
    Fits (.dinf box) ∧ parts (.dinf box) ⊆ boxes := by
  unfold collectDinf at sorted
  cases last : lastOf asDref boxes with
  | none =>
      rw [last] at sorted
      cases sorted
  | some found =>
      rw [last] at sorted
      cases sorted
      have first := mem_of_lastOf last
      refine ⟨⟨rfl, apart_othersThan _ _⟩, ?_⟩
      exact List.append_subset.mpr ⟨first, othersThan_subset _ _⟩

theorem collectStbl_sorts {boxes : List DynBox} {box : Stbl DynBox}
    (sorted : collectStbl ⟨Stbl.name⟩ boxes = .ok box) :
    Fits (.stbl box) ∧ parts (.stbl box) ⊆ boxes := by
  obtain ⟨_, stsdFound, more⟩ := sequence_eq_ok_iff.mp sorted
  obtain ⟨_, sttsFound, more⟩ := sequence_eq_ok_iff.mp more
  obtain ⟨_, stscFound, more⟩ := sequence_eq_ok_iff.mp more
  obtain ⟨_, stcoFound, same⟩ := sequence_eq_ok_iff.mp more
  cases same
  refine ⟨⟨rfl, apart_othersThan _ _⟩, ?_⟩
  simp only [parts, List.append_subset]
  exact ⟨⟨⟨⟨⟨⟨⟨⟨⟨⟨⟨⟨⟨⟨⟨mem_of_required stsdFound, mem_of_required sttsFound⟩, lastOf_subset asCtts
    boxes⟩, mem_of_required stscFound⟩, lastOf_subset asStsz boxes⟩, lastOf_subset asStz2 boxes⟩,
    mem_of_required stcoFound⟩, lastOf_subset asCo64 boxes⟩, lastOf_subset asStss boxes⟩,
    lastOf_subset asStsh boxes⟩, lastOf_subset asPadb boxes⟩, lastOf_subset asStdp boxes⟩,
    lastOf_subset asSdtp boxes⟩, lastOf_subset asSbgp boxes⟩, lastOf_subset asSubs boxes⟩,
    othersThan_subset _ _⟩

theorem collectMoof_sorts {boxes : List DynBox} {box : Moof DynBox}
    (sorted : collectMoof ⟨Moof.name⟩ boxes = .ok box) :
    Fits (.moof box) ∧ parts (.moof box) ⊆ boxes := by
  rw [collectMoof_eq] at sorted
  obtain ⟨_, mfhdFound, same⟩ := sequence_eq_ok_iff.mp sorted
  cases same
  refine ⟨⟨rfl, apart_othersThan _ _⟩, ?_⟩
  simp only [parts, List.append_subset]
  exact ⟨⟨mem_of_required mfhdFound, filterMap_subset asTraf boxes⟩, othersThan_subset _ _⟩

theorem collectTraf_sorts {boxes : List DynBox} {box : Traf DynBox}
    (sorted : collectTraf ⟨Traf.name⟩ boxes = .ok box) :
    Fits (.traf box) ∧ parts (.traf box) ⊆ boxes := by
  rw [collectTraf_eq] at sorted
  obtain ⟨_, tfhdFound, same⟩ := sequence_eq_ok_iff.mp sorted
  cases same
  refine ⟨⟨rfl, apart_othersThan _ _⟩, ?_⟩
  simp only [parts, List.append_subset]
  exact ⟨⟨⟨⟨⟨mem_of_required tfhdFound, lastOf_subset asSbgp boxes⟩, lastOf_subset asSubs boxes⟩,
    lastOf_subset asTfdt boxes⟩, othersThan_subset _ _⟩, lastOf_subset asTrun boxes⟩

/-! ## What reading a sample entry keeps -/

/-- The boxes among the fields of a video entry are not there before they are sorted. -/
def WithoutPicture (entry : SampleEntry VisualSampleEntry) : Prop :=
  entry.extension.clap = none ∧ entry.extension.colr = none ∧ entry.extension.pasp = none

theorem yields_withoutPicture : Yields SampleEntry.demux WithoutPicture := by
  refine .bind fun _ => .bind fun _ => ?_
  have bare : Yields VisualSampleEntry.demux fun entry =>
      entry.clap = none ∧ entry.colr = none ∧ entry.pasp = none := by
    iterate 12 refine .bind fun _ => ?_
    exact .pure ⟨rfl, rfl, rfl⟩
  exact bare.after fun _ without => .pure without

theorem yields_smallRate : Yields SampleEntry.demux fun entry : SampleEntry AudioSampleEntry =>
    entry.extension.sampleRate.toNat < 2 ^ 16 := by
  refine .bind fun _ => .bind fun _ => ?_
  have small : Yields AudioSampleEntry.demux fun entry => entry.sampleRate.toNat < 2 ^ 16 := by
    iterate 5 refine .bind fun _ => ?_
    refine .bind fun rate => .pure ?_
    have half : (16 : UInt32).toNat = 16 := rfl
    have bound := rate.toNat_lt
    simp only [UInt32.toNat_shiftRight, half, Nat.reduceMod, Nat.shiftRight_eq_div_pow]
    omega
  exact small.after fun _ bounded => .pure bounded

theorem withPicture_parts {entry : SampleEntry VisualSampleEntry} (bare : WithoutPicture entry)
    (boxes : List DynBox) : (withPicture entry boxes).extension.parts ⊆ boxes := by
  obtain ⟨noClap, noColr, noPasp⟩ := bare
  simp only [withPicture, VisualSampleEntry.parts, noClap, noColr, noPasp, Option.or_none,
    List.append_subset]
  exact ⟨⟨lastOf_subset asClap boxes, lastOf_subset asPasp boxes⟩, lastOf_subset asColr boxes⟩

theorem collectAvc1_sorts {entry : SampleEntry VisualSampleEntry} {boxes : List DynBox}
    {box : Avc1 DynBox} (bare : WithoutPicture entry)
    (sorted : collectAvc1 ⟨Avc1.name⟩ entry boxes = .ok box) :
    Fits (.avc1 box) ∧ parts (.avc1 box) ⊆ boxes := by
  obtain ⟨_, avcCFound, same⟩ := sequence_eq_ok_iff.mp sorted
  cases same
  refine ⟨⟨rfl, apart_othersThan _ _⟩, ?_⟩
  simp only [parts, List.append_subset]
  exact ⟨⟨⟨withPicture_parts bare boxes, mem_of_required avcCFound⟩, lastOf_subset asBtrt boxes⟩,
    othersThan_subset _ _⟩

theorem collectHev1_sorts {entry : SampleEntry VisualSampleEntry} {boxes : List DynBox}
    {box : Hev1 DynBox} (bare : WithoutPicture entry)
    (sorted : collectHev1 ⟨Hev1.name⟩ entry boxes = .ok box) :
    Fits (.hev1 box) ∧ parts (.hev1 box) ⊆ boxes := by
  obtain ⟨_, hvcCFound, same⟩ := sequence_eq_ok_iff.mp sorted
  cases same
  refine ⟨⟨rfl, apart_othersThan _ _⟩, ?_⟩
  simp only [parts, List.append_subset]
  exact ⟨⟨⟨withPicture_parts bare boxes, mem_of_required hvcCFound⟩, lastOf_subset asBtrt boxes⟩,
    othersThan_subset _ _⟩

theorem collectAv01_sorts {entry : SampleEntry VisualSampleEntry} {boxes : List DynBox}
    {box : Av01 DynBox} (bare : WithoutPicture entry)
    (sorted : collectAv01 ⟨Av01.name⟩ entry boxes = .ok box) :
    Fits (.av01 box) ∧ parts (.av01 box) ⊆ boxes := by
  obtain ⟨_, av1CFound, same⟩ := sequence_eq_ok_iff.mp sorted
  cases same
  refine ⟨⟨rfl, apart_othersThan _ _⟩, ?_⟩
  simp only [parts, List.append_subset]
  exact ⟨⟨⟨withPicture_parts bare boxes, mem_of_required av1CFound⟩, lastOf_subset asBtrt boxes⟩,
    othersThan_subset _ _⟩

theorem collectMp4a_sorts {entry : SampleEntry AudioSampleEntry} {boxes : List DynBox}
    {box : Mp4a DynBox} (small : entry.extension.sampleRate.toNat < 2 ^ 16)
    (sorted : collectMp4a ⟨Mp4a.name⟩ entry boxes = .ok box) :
    Fits (.mp4a box) ∧ parts (.mp4a box) ⊆ boxes := by
  obtain ⟨_, esdsFound, same⟩ := sequence_eq_ok_iff.mp sorted
  cases same
  refine ⟨⟨⟨rfl, apart_othersThan _ _⟩, small⟩, ?_⟩
  simp only [parts, List.append_subset]
  exact ⟨⟨mem_of_required esdsFound, lastOf_subset asBtrt boxes⟩, othersThan_subset _ _⟩

theorem collectOpus_sorts {entry : SampleEntry AudioSampleEntry} {boxes : List DynBox}
    {box : Opus DynBox} (small : entry.extension.sampleRate.toNat < 2 ^ 16)
    (sorted : collectOpus ⟨Opus.name⟩ entry boxes = .ok box) :
    Fits (.opus box) ∧ parts (.opus box) ⊆ boxes := by
  cases sorted
  refine ⟨⟨⟨rfl, apart_othersThan _ _⟩, small⟩, ?_⟩
  simp only [parts, List.append_subset]
  exact ⟨lastOf_subset asBtrt boxes, othersThan_subset _ _⟩

/-! ## What reading a box keeps -/

/-- The types of boxes whose fields can be written as other bytes than they were read from. -/
def Lossy : DynBox → Prop
  | .hdlr box => Recovers.Lossy box
  | .url box => Recovers.Lossy box
  | .padb box => Recovers.Lossy box
  | .esds box => Recovers.Lossy box
  | .av1C box => Recovers.Lossy box
  | _ => False

section OneBox

variable {checks : OverflowChecks} {nested : Reader IoFault DynBox} {data : Bytes}

/-- A container that its sorting makes fit, of boxes that have been read. -/
theorem fits_of_collected {β : Type} {inject : β → DynBox}
    {collect : List DynBox → Except IoFault β} {box : β}
    (read : (collected nested collect).parse data = .ok box)
    (sorts : ∀ {boxes}, collect boxes = .ok box →
      Fits (inject box) ∧ parts (inject box) ⊆ boxes) :
    Fits (inject box) ∧ ∀ inner ∈ parts (inject box), Returned nested inner := by
  have yields : Yields (collected nested collect) fun box =>
      ∃ boxes, (∀ inner ∈ boxes, Returned nested inner) ∧ collect boxes = .ok box :=
    ((Yields.returned nested).untilEnd IoFault.unfinished).after fun boxes returned =>
      .ofExcept fun _ sorted => ⟨boxes, returned, sorted⟩
  obtain ⟨boxes, returned, sorted⟩ := yields.parse read
  obtain ⟨fits, inside⟩ := sorts sorted
  exact ⟨fits, fun inner member => returned inner (inside member)⟩

theorem fits_of_entered {Extension β : Type} [SampleEntryExtension Extension]
    {holds : SampleEntry Extension → Prop} (yields : Yields SampleEntry.demux holds)
    {inject : β → DynBox} {collect : SampleEntry Extension → List DynBox → Except IoFault β}
    {box : β} (read : (entered nested collect).parse data = .ok box)
    (sorts : ∀ {entry boxes}, holds entry → collect entry boxes = .ok box →
      Fits (inject box) ∧ parts (inject box) ⊆ boxes) :
    Fits (inject box) ∧ ∀ inner ∈ parts (inject box), Returned nested inner := by
  have all : Yields (entered nested collect) fun box =>
      ∃ entry boxes, holds entry ∧ (∀ inner ∈ boxes, Returned nested inner) ∧
        collect entry boxes = .ok box :=
    yields.after fun entry held =>
      ((Yields.returned nested).untilEnd IoFault.unfinished).after fun boxes returned =>
        .ofExcept fun _ sorted => ⟨entry, boxes, held, returned, sorted⟩
  obtain ⟨_, boxes, held, returned, sorted⟩ := all.parse read
  obtain ⟨fits, inside⟩ := sorts held sorted
  exact ⟨fits, fun inner member => returned inner (inside member)⟩

theorem entries_of_counted {β : Type} {room : Nat → Reader IoFault Unit}
    {make : FullBoxHeader → List DynBox → β} {header : BoxHeader} {box : β}
    (read : (counted nested room make header).parse data = .ok box) :
    ∃ full boxes, box = make full boxes ∧ full.header = header ∧ boxes.length < 2 ^ 32 ∧
      ∀ inner ∈ boxes, Returned nested inner := by
  have yields : Yields (counted nested room make header) fun box =>
      ∃ full boxes, box = make full boxes ∧ full.header = header ∧ boxes.length < 2 ^ 32 ∧
        ∀ inner ∈ boxes, Returned nested inner := by
    refine (FullBoxHeader.yields header).after fun full named => .bind fun count => ?_
    refine .bind fun _ => ?_
    refine ((Yields.returned nested).repeated count.toNat).after fun boxes ⟨length, each⟩ => ?_
    exact .pure ⟨full, boxes, rfl, named, length ▸ count.toNat_lt, each⟩
  exact yields.parse read

theorem fits_of_plain {β : Type} [BoxType β] [Recovers β] {box : β} {own : Bytes}
    (read : BoxType.demux checks ⟨BoxType.name β⟩ data = .ok box) (kept : ¬Recovers.Lossy box)
    (written : checked box = .ok own) : Recovers.Fits box := by
  obtain ⟨_, valid, _⟩ := sequence_eq_ok_iff.mp written
  exact Recovers.fits checks data box read valid kept

/-- A box that is read and can be written fits, and the boxes inside it have been read. -/
theorem fits_of_ofKind {kind : BoxKind} {box : DynBox} {own : Bytes}
    (read : ofKind checks nested ⟨kind.name⟩ data kind = .ok box) (kept : ¬Lossy box)
    (written : ownMux box = .ok own) :
    Fits box ∧ ∀ inner ∈ parts box, Returned nested inner := by
  cases kind with
  | ftyp | mvhd | trex | mehd | tkhd | elst | mdhd | hmhd | nmhd | smhd | vmhd | stsz | stsc
  | stco | co64 | stts | stss | stz2 | stsh | ctts | stdp | sbgp | subs | sdtp | clap | pasp
  | avcC | btrt | mfhd | tfhd | tfdt | trun | mdat | colr | hvcC =>
      obtain ⟨box, parsed, same⟩ := sequence_eq_ok_iff.mp read
      cases same
      exact ⟨fits_of_plain parsed id written, List.forall_mem_nil _⟩
  | hdlr | url | padb | av1C | esds =>
      obtain ⟨box, parsed, same⟩ := sequence_eq_ok_iff.mp read
      cases same
      exact ⟨fits_of_plain parsed kept written, List.forall_mem_nil _⟩
  | dref | stsd =>
      obtain ⟨box, parsed, same⟩ := sequence_eq_ok_iff.mp read
      cases same
      obtain ⟨_, _, rfl, named, few, returned⟩ := entries_of_counted parsed
      exact ⟨⟨named, few⟩, returned⟩
  | moov =>
      obtain ⟨box, parsed, same⟩ := sequence_eq_ok_iff.mp read
      cases same
      exact fits_of_collected parsed collectMoov_sorts
  | mvex =>
      obtain ⟨box, parsed, same⟩ := sequence_eq_ok_iff.mp read
      cases same
      exact fits_of_collected parsed collectMvex_sorts
  | trak =>
      obtain ⟨box, parsed, same⟩ := sequence_eq_ok_iff.mp read
      cases same
      exact fits_of_collected parsed collectTrak_sorts
  | mdia =>
      obtain ⟨box, parsed, same⟩ := sequence_eq_ok_iff.mp read
      cases same
      exact fits_of_collected parsed collectMdia_sorts
  | edts =>
      obtain ⟨box, parsed, same⟩ := sequence_eq_ok_iff.mp read
      cases same
      exact fits_of_collected parsed collectEdts_sorts
  | minf =>
      obtain ⟨box, parsed, same⟩ := sequence_eq_ok_iff.mp read
      cases same
      exact fits_of_collected parsed collectMinf_sorts
  | dinf =>
      obtain ⟨box, parsed, same⟩ := sequence_eq_ok_iff.mp read
      cases same
      exact fits_of_collected parsed collectDinf_sorts
  | stbl =>
      obtain ⟨box, parsed, same⟩ := sequence_eq_ok_iff.mp read
      cases same
      exact fits_of_collected parsed collectStbl_sorts
  | avc1 =>
      obtain ⟨box, parsed, same⟩ := sequence_eq_ok_iff.mp read
      cases same
      exact fits_of_entered yields_withoutPicture parsed collectAvc1_sorts
  | mp4a =>
      obtain ⟨box, parsed, same⟩ := sequence_eq_ok_iff.mp read
      cases same
      exact fits_of_entered yields_smallRate parsed collectMp4a_sorts
  | moof =>
      obtain ⟨box, parsed, same⟩ := sequence_eq_ok_iff.mp read
      cases same
      exact fits_of_collected parsed collectMoof_sorts
  | traf =>
      obtain ⟨box, parsed, same⟩ := sequence_eq_ok_iff.mp read
      cases same
      exact fits_of_collected parsed collectTraf_sorts
  | av01 =>
      obtain ⟨box, parsed, same⟩ := sequence_eq_ok_iff.mp read
      cases same
      exact fits_of_entered yields_withoutPicture parsed collectAv01_sorts
  | hev1 =>
      obtain ⟨box, parsed, same⟩ := sequence_eq_ok_iff.mp read
      cases same
      exact fits_of_entered yields_withoutPicture parsed collectHev1_sorts
  | opus =>
      obtain ⟨box, parsed, same⟩ := sequence_eq_ok_iff.mp read
      cases same
      exact fits_of_entered yields_smallRate parsed collectOpus_sorts

theorem fits_of_ofData {header : BoxHeader} {box : DynBox} {own : Bytes}
    (read : ofData checks nested header data = .ok box) (kept : ¬Lossy box)
    (written : ownMux box = .ok own) :
    Fits box ∧ ∀ inner ∈ parts box, Returned nested inner := by
  unfold ofData at read
  split at read
  · rename_i kind named
    obtain ⟨boxType⟩ := header
    cases BoxKind.name_of_ofName named
    exact fits_of_ofKind read kept written
  · rename_i unnamed
    cases read
    exact ⟨unnamed, List.forall_mem_nil _⟩

end OneBox

/-! ## What reading a tree keeps -/

theorem fits_of_returned {checks : OverflowChecks} {depth : Nat} {box : DynBox} {own : Bytes}
    (read : Returned (demuxWithin checks depth) box) (kept : ¬Lossy box)
    (written : ownMux box = .ok own) :
    Fits box ∧ ∃ fewer, ∀ inner ∈ parts box, Returned (demuxWithin checks fewer) inner := by
  obtain ⟨buffer, position, stop, done⟩ := read
  cases depth with
  | zero => cases done
  | succ depth =>
      obtain ⟨⟨header, data⟩, _, _, more⟩ := bind_eq_ok_iff.mp done
      obtain ⟨fits, inside⟩ := fits_of_ofData (ok_of_ofExcept more).1 kept written
      exact ⟨fits, depth, inside⟩

theorem returned_of_demux {checks : OverflowChecks} {box : DynBox}
    (read : Returned (demux checks) box) : ∃ depth, Returned (demuxWithin checks depth) box := by
  obtain ⟨buffer, position, stop, done⟩ := read
  exact ⟨_, buffer, position, stop, done⟩

theorem parts_of_lossy {box : DynBox} (lossy : Lossy box) : parts box = [] := by
  cases box with
  | hdlr | url | padb | esds | av1C => rfl
  | _ => exact lossy.elim

/-- In a tree that is read and can be written every box has been read. -/
theorem returned_of_nested {checks : OverflowChecks} {depth : Nat} {box inner : DynBox}
    {bytes : Bytes} (read : Returned (demuxWithin checks depth) box)
    (written : mux box = .ok bytes) (short : size box ≤ u32Max) (nested : Nested box inner) :
    ∃ fewer own, Returned (demuxWithin checks fewer) inner ∧ ownMux inner = .ok own := by
  induction nested generalizing depth bytes with
  | @self box =>
      obtain ⟨_, equation⟩ := mux_eq box short
      rw [equation] at written
      obtain ⟨own, ownWritten, _⟩ := sequence_eq_ok_iff.mp written
      exact ⟨depth, own, read, ownWritten⟩
  | @part box inner deeper inside _ ih =>
      obtain ⟨_, equation⟩ := mux_eq box short
      rw [equation] at written
      obtain ⟨own, ownWritten, more⟩ := sequence_eq_ok_iff.mp written
      obtain ⟨rest, restWritten, _⟩ := sequence_eq_ok_iff.mp more
      have kept : ¬Lossy box := by
        intro lossy
        rw [parts_of_lossy lossy] at inside
        exact List.not_mem_nil inside
      obtain ⟨_, fewer, returned⟩ := fits_of_returned read kept ownWritten
      obtain ⟨innerBytes, innerWritten, _⟩ := muxAll_mem restWritten inside
      have smaller := size_lt_of_mem_parts inside
      exact ih (returned inner inside) innerWritten (by omega)

/-- In a tree that is read and can be written every box fits, unless it is lossy. -/
theorem fits_of_read {checks : OverflowChecks} {depth : Nat} {box inner : DynBox} {bytes : Bytes}
    (read : Returned (demuxWithin checks depth) box) (written : mux box = .ok bytes)
    (short : size box ≤ u32Max) (nested : Nested box inner) (kept : ¬Lossy inner) :
    Fits inner := by
  obtain ⟨_, _, returned, ownWritten⟩ := returned_of_nested read written short nested
  exact (fits_of_returned returned kept ownWritten).1

/-- No box of a tree is lossy or overstates its size. -/
def Lossless (box : DynBox) : Prop := ∀ inner, Nested box inner → ¬Lossy inner ∧ ¬Overstated inner

theorem lossless_of_parts {box : DynBox} (own : ¬Lossy box ∧ ¬Overstated box)
    (inside : ∀ inner ∈ parts box, Lossless inner) : Lossless box := by
  intro inner nested
  cases nested with
  | self => exact own
  | part member nested => exact inside _ member _ nested

/-- A tree that is read and can be written comes back, unless a box in it is lossy or overstates
its size. -/
theorem recoverable_of_read {checks : OverflowChecks} {box : DynBox} {bytes : Bytes}
    (read : Returned (demux checks) box) (written : mux box = .ok bytes)
    (short : size box ≤ u32Max) (lossless : Lossless box) : Recoverable box := by
  obtain ⟨depth, read⟩ := returned_of_demux read
  intro inner nested
  obtain ⟨kept, honest⟩ := lossless inner nested
  exact ⟨fits_of_read read written short nested kept, honest⟩

/-- Reading a file, writing what was read and reading that gives the same boxes. -/
theorem demuxAll_muxAll_demuxAll {checks : OverflowChecks} {data bytes : Bytes}
    {boxes : List DynBox} (read : demuxAll checks data = .ok boxes)
    (written : muxAll boxes = .ok bytes) (short : ∀ box ∈ boxes, size box ≤ u32Max)
    (lossless : ∀ box ∈ boxes, Lossless box) : demuxAll checks bytes = .ok boxes := by
  have returned : ∀ box ∈ boxes, Returned (demux checks) box :=
    ((Yields.returned (demux checks)).whileRemaining IoFault.unfinished _).parse read
  refine demuxAll_muxAll checks (fun box member => ?_) short written
  obtain ⟨inner, innerWritten, _⟩ := muxAll_mem written member
  exact recoverable_of_read (returned box member) innerWritten (short box member)
    (lossless box member)

/-- The boxes of the file are written in another order than they came. -/
theorem demuxAll_muxAll_demuxAll_mvex :
    demuxAll .on [0, 0, 0, 34, 109, 118, 101, 120, 0, 0, 0, 16, 109, 101, 104, 100, 0, 0, 0, 0,
      0, 0, 0, 7, 0, 0, 0, 10, 102, 114, 101, 101, 1, 2] =
      .ok [.mvex ⟨⟨Mvex.name⟩, [], some ⟨⟨⟨Mehd.name⟩, 0, 0⟩, 7⟩,
        [.unknown ⟨⟨102, 114, 101, 101⟩⟩ [1, 2]]⟩] := by
  have read : demuxAll .on [0, 0, 0, 34, 109, 118, 101, 120, 0, 0, 0, 10, 102, 114, 101, 101, 1,
      2, 0, 0, 0, 16, 109, 101, 104, 100, 0, 0, 0, 0, 0, 0, 0, 7] =
      .ok [.mvex ⟨⟨Mvex.name⟩, [], some ⟨⟨⟨Mehd.name⟩, 0, 0⟩, 7⟩,
        [.unknown ⟨⟨102, 114, 101, 101⟩⟩ [1, 2]]⟩] := rfl
  refine demuxAll_muxAll_demuxAll read rfl (by decide) (List.forall_mem_singleton.mpr ?_)
  refine lossless_of_parts ⟨id, id⟩
    (List.forall_mem_cons.mpr ⟨?_, List.forall_mem_singleton.mpr ?_⟩)
  · exact lossless_of_parts ⟨id, id⟩ (List.forall_mem_nil _)
  · exact lossless_of_parts ⟨id, id⟩ (List.forall_mem_nil _)

end DynBox

end ScuffleVideo.Mp4
