import ScuffleVideo.Mp4.DynBox

/-!
# The size law

Measuring a box and writing it are two traversals of the same tree.  Seen
uniformly, a box has a part of its own and then the boxes inside it, both in its
size and in its bytes.  What a box measures of its own is never less than what
it writes, and more in three types only: a sample group without grouping type, a
compact size table with samples, and descriptors with texts beyond ASCII.  A tree
keeps the law that its bytes are as many as its size says exactly when none of
these is in it.
-/

namespace ScuffleVideo.Mp4

open Wire Wire.Reader

/-! ## Boxes inside boxes -/

/-- The boxes among the fields of a video entry. -/
def VisualSampleEntry.parts (entry : VisualSampleEntry) : List DynBox :=
  entry.clap.toList.map .clap ++ entry.pasp.toList.map .pasp ++ entry.colr.toList.map .colr

namespace DynBox

/-- The boxes inside a box, in the order in which they are written. -/
def parts : DynBox → List DynBox
  | .moov box => [.mvhd box.mvhd] ++ box.traks.map .trak ++ box.mvex.toList.map .mvex ++ box.unknown
  | .mvex box => box.trex.map .trex ++ box.mehd.toList.map .mehd ++ box.unknown
  | .trak box => [.tkhd box.tkhd] ++ box.edts.toList.map .edts ++ [.mdia box.mdia] ++ box.unknown
  | .mdia box => [.mdhd box.mdhd] ++ [.hdlr box.hdlr] ++ [.minf box.minf] ++ box.unknown
  | .edts box => box.elst.toList.map .elst ++ box.unknown
  | .minf box =>
      box.vmhd.toList.map .vmhd ++ box.smhd.toList.map .smhd ++ box.hmhd.toList.map .hmhd ++
        box.nmhd.toList.map .nmhd ++ [.dinf box.dinf] ++ [.stbl box.stbl] ++ box.unknown
  | .dinf box => [.dref box.dref] ++ box.unknown
  | .stbl box =>
      [.stsd box.stsd] ++ [.stts box.stts] ++ box.ctts.toList.map .ctts ++ [.stsc box.stsc] ++
        box.stsz.toList.map .stsz ++ box.stz2.toList.map .stz2 ++ [.stco box.stco] ++
        box.co64.toList.map .co64 ++ box.stss.toList.map .stss ++ box.stsh.toList.map .stsh ++
        box.padb.toList.map .padb ++ box.stdp.toList.map .stdp ++ box.sdtp.toList.map .sdtp ++
        box.sbgp.toList.map .sbgp ++ box.subs.toList.map .subs ++ box.unknown
  | .dref box => box.entries
  | .stsd box => box.entries
  | .avc1 box =>
      box.visualSampleEntry.extension.parts ++ [.avcC box.avcc] ++ box.btrt.toList.map .btrt ++
        box.unknown
  | .mp4a box => [.esds box.esds] ++ box.btrt.toList.map .btrt ++ box.unknown
  | .moof box => [.mfhd box.mfhd] ++ box.traf.map .traf ++ box.unknown
  | .traf box =>
      [.tfhd box.tfhd] ++ box.sbgp.toList.map .sbgp ++ box.subs.toList.map .subs ++
        box.tfdt.toList.map .tfdt ++ box.unknown ++ box.trun.toList.map .trun
  | .av01 box =>
      box.visualSampleEntry.extension.parts ++ [.av1C box.av1c] ++ box.btrt.toList.map .btrt ++
        box.unknown
  | .hev1 box =>
      box.visualSampleEntry.extension.parts ++ [.hvcC box.hvcc] ++ box.btrt.toList.map .btrt ++
        box.unknown
  | .opus box => box.btrt.toList.map .btrt ++ box.unknown
  | _ => []

/-- What is measured of a box beside the boxes inside it. -/
def ownSize : DynBox → Nat
  | .ftyp box => BoxType.primitiveSize box
  | .moov _ => 0
  | .mvhd box => BoxType.primitiveSize box
  | .mvex _ => 0
  | .trak _ => 0
  | .trex box => BoxType.primitiveSize box
  | .mehd box => BoxType.primitiveSize box
  | .mdia _ => 0
  | .tkhd box => BoxType.primitiveSize box
  | .edts _ => 0
  | .elst box => BoxType.primitiveSize box
  | .mdhd box => BoxType.primitiveSize box
  | .minf _ => 0
  | .hdlr box => BoxType.primitiveSize box
  | .dinf _ => 0
  | .stbl _ => 0
  | .hmhd box => BoxType.primitiveSize box
  | .nmhd box => BoxType.primitiveSize box
  | .smhd box => BoxType.primitiveSize box
  | .vmhd box => BoxType.primitiveSize box
  | .dref box => box.header.size + 4
  | .stsd box => box.header.size + 4
  | .stsz box => BoxType.primitiveSize box
  | .stsc box => BoxType.primitiveSize box
  | .stco box => BoxType.primitiveSize box
  | .co64 box => BoxType.primitiveSize box
  | .stts box => BoxType.primitiveSize box
  | .stss box => BoxType.primitiveSize box
  | .stz2 box => BoxType.primitiveSize box
  | .stsh box => BoxType.primitiveSize box
  | .ctts box => BoxType.primitiveSize box
  | .stdp box => BoxType.primitiveSize box
  | .sbgp box => BoxType.primitiveSize box
  | .subs box => BoxType.primitiveSize box
  | .padb box => BoxType.primitiveSize box
  | .sdtp box => BoxType.primitiveSize box
  | .url box => BoxType.primitiveSize box
  | .avc1 _ => 6 + 2 + 70
  | .clap box => BoxType.primitiveSize box
  | .pasp box => BoxType.primitiveSize box
  | .avcC box => BoxType.primitiveSize box
  | .btrt box => BoxType.primitiveSize box
  | .mp4a _ => 6 + 2 + 20
  | .esds box => BoxType.primitiveSize box
  | .moof _ => 0
  | .mfhd box => BoxType.primitiveSize box
  | .traf _ => 0
  | .tfhd box => BoxType.primitiveSize box
  | .tfdt box => BoxType.primitiveSize box
  | .trun box => BoxType.primitiveSize box
  | .mdat box => BoxType.primitiveSize box
  | .av01 _ => 6 + 2 + 70
  | .av1C box => BoxType.primitiveSize box
  | .colr box => BoxType.primitiveSize box
  | .hev1 _ => 6 + 2 + 70
  | .hvcC box => BoxType.primitiveSize box
  | .opus _ => 6 + 2 + 20
  | .unknown _ data => data.length

/-- A box that passes its own checks is written as its payload. -/
def checked {β : Type} [BoxType β] (box : β) : Except IoFault Bytes := do
  BoxType.validate box
  BoxType.primitiveMux box

/-- What is written of a box between its header and the boxes inside it. -/
def ownMux : DynBox → Except IoFault Bytes
  | .ftyp box => checked box
  | .moov _ => .ok []
  | .mvhd box => checked box
  | .mvex _ => .ok []
  | .trak _ => .ok []
  | .trex box => checked box
  | .mehd box => checked box
  | .mdia _ => .ok []
  | .tkhd box => checked box
  | .edts _ => .ok []
  | .elst box => checked box
  | .mdhd box => checked box
  | .minf _ => .ok []
  | .hdlr box => checked box
  | .dinf _ => .ok []
  | .stbl _ => .ok []
  | .hmhd box => checked box
  | .nmhd box => checked box
  | .smhd box => checked box
  | .vmhd box => checked box
  | .dref box => do
      box.validate
      return (← box.header.mux) ++ beU32 (UInt32.ofNat box.entries.length)
  | .stsd box => do
      box.validate
      return (← box.header.mux) ++ beU32 (UInt32.ofNat box.entries.length)
  | .stsz box => checked box
  | .stsc box => checked box
  | .stco box => checked box
  | .co64 box => checked box
  | .stts box => checked box
  | .stss box => checked box
  | .stz2 box => checked box
  | .stsh box => checked box
  | .ctts box => checked box
  | .stdp box => checked box
  | .sbgp box => checked box
  | .subs box => checked box
  | .padb box => checked box
  | .sdtp box => checked box
  | .url box => checked box
  | .avc1 box => do
      box.visualSampleEntry.validate
      return box.visualSampleEntry.fields ++ box.visualSampleEntry.extension.fields
  | .clap box => checked box
  | .pasp box => checked box
  | .avcC box => checked box
  | .btrt box => checked box
  | .mp4a box => do
      box.audioSampleEntry.validate
      return box.audioSampleEntry.fields ++ box.audioSampleEntry.extension.fields
  | .esds box => checked box
  | .moof _ => .ok []
  | .mfhd box => checked box
  | .traf _ => .ok []
  | .tfhd box => checked box
  | .tfdt box => checked box
  | .trun box => checked box
  | .mdat box => checked box
  | .av01 box => do
      box.visualSampleEntry.validate
      return box.visualSampleEntry.fields ++ box.visualSampleEntry.extension.fields
  | .av1C box => checked box
  | .colr box => checked box
  | .hev1 box => do
      box.visualSampleEntry.validate
      return box.visualSampleEntry.fields ++ box.visualSampleEntry.extension.fields
  | .hvcC box => checked box
  | .opus box => do
      box.audioSampleEntry.validate
      return box.audioSampleEntry.fields ++ box.audioSampleEntry.extension.fields
  | .unknown _ data => .ok data

/-! ## Sizes and bytes of several boxes -/

theorem ok_bind {ε α β : Type} (value : α) (next : α → Except ε β) :
    (Except.ok value >>= next) = next value := rfl

theorem sizes_append (boxes more : List DynBox) :
    sizes (boxes ++ more) = sizes boxes + sizes more := by
  induction boxes with
  | nil => simp [sizes]
  | cons box boxes ih =>
      rw [List.cons_append, sizes, sizes, ih]
      omega

theorem sizes_singleton (box : DynBox) : sizes [box] = size box := by
  rw [sizes, sizes, Nat.add_zero]

theorem muxAll_append (boxes more : List DynBox) :
    muxAll (boxes ++ more) = (do
      let first ← muxAll boxes
      let rest ← muxAll more
      return first ++ rest) := by
  induction boxes with
  | nil =>
      rw [List.nil_append, muxAll, ok_bind]
      exact (bind_pure (muxAll more)).symm
  | cons box boxes ih =>
      rw [List.cons_append, muxAll, muxAll, ih]
      simp only [bind_assoc, pure_bind, List.append_assoc]

theorem muxAll_singleton (box : DynBox) : muxAll [box] = mux box := by
  rw [muxAll, muxAll]
  simp only [ok_bind, List.append_nil, bind_pure]

/-- Boxes of a type that holds no other boxes are measured and written as such. -/
class Plain {β : Type} [BoxType β] (inject : β → DynBox) : Prop where
  size : ∀ box, size (inject box) = BoxType.size box
  mux : ∀ box, mux (inject box) = BoxType.mux box

section Plain

variable {β : Type} [BoxType β] {inject : β → DynBox} [plain : Plain inject]

theorem sizes_option (box : Option β) : sizes (box.toList.map inject) = sizeOption box := by
  cases box with
  | none => rfl
  | some box => exact (sizes_singleton _).trans (plain.size box)

theorem muxAll_option (box : Option β) : muxAll (box.toList.map inject) = muxOption box := by
  cases box with
  | none => rfl
  | some box => exact (muxAll_singleton _).trans (plain.mux box)

theorem sizes_list (boxes : List β) : sizes (boxes.map inject) = sizeList boxes := by
  induction boxes with
  | nil => rfl
  | cons box boxes ih =>
      rw [List.map_cons, sizes, ih, plain.size]
      rfl

theorem muxAll_list (boxes : List β) : muxAll (boxes.map inject) = muxList boxes := by
  induction boxes with
  | nil => rfl
  | cons box boxes ih =>
      rw [List.map_cons, muxAll, ih, plain.mux]
      rfl

end Plain

instance : Plain DynBox.ftyp := ⟨fun _ => rfl, fun _ => rfl⟩

instance : Plain DynBox.mvhd := ⟨fun _ => rfl, fun _ => rfl⟩

instance : Plain DynBox.trex := ⟨fun _ => rfl, fun _ => rfl⟩

instance : Plain DynBox.mehd := ⟨fun _ => rfl, fun _ => rfl⟩

instance : Plain DynBox.tkhd := ⟨fun _ => rfl, fun _ => rfl⟩

instance : Plain DynBox.elst := ⟨fun _ => rfl, fun _ => rfl⟩

instance : Plain DynBox.mdhd := ⟨fun _ => rfl, fun _ => rfl⟩

instance : Plain DynBox.hdlr := ⟨fun _ => rfl, fun _ => rfl⟩

instance : Plain DynBox.hmhd := ⟨fun _ => rfl, fun _ => rfl⟩

instance : Plain DynBox.nmhd := ⟨fun _ => rfl, fun _ => rfl⟩

instance : Plain DynBox.smhd := ⟨fun _ => rfl, fun _ => rfl⟩

instance : Plain DynBox.vmhd := ⟨fun _ => rfl, fun _ => rfl⟩

instance : Plain DynBox.stsz := ⟨fun _ => rfl, fun _ => rfl⟩

instance : Plain DynBox.stsc := ⟨fun _ => rfl, fun _ => rfl⟩

instance : Plain DynBox.stco := ⟨fun _ => rfl, fun _ => rfl⟩

instance : Plain DynBox.co64 := ⟨fun _ => rfl, fun _ => rfl⟩

instance : Plain DynBox.stts := ⟨fun _ => rfl, fun _ => rfl⟩

instance : Plain DynBox.stss := ⟨fun _ => rfl, fun _ => rfl⟩

instance : Plain DynBox.stz2 := ⟨fun _ => rfl, fun _ => rfl⟩

instance : Plain DynBox.stsh := ⟨fun _ => rfl, fun _ => rfl⟩

instance : Plain DynBox.ctts := ⟨fun _ => rfl, fun _ => rfl⟩

instance : Plain DynBox.stdp := ⟨fun _ => rfl, fun _ => rfl⟩

instance : Plain DynBox.sbgp := ⟨fun _ => rfl, fun _ => rfl⟩

instance : Plain DynBox.subs := ⟨fun _ => rfl, fun _ => rfl⟩

instance : Plain DynBox.padb := ⟨fun _ => rfl, fun _ => rfl⟩

instance : Plain DynBox.sdtp := ⟨fun _ => rfl, fun _ => rfl⟩

instance : Plain DynBox.url := ⟨fun _ => rfl, fun _ => rfl⟩

instance : Plain DynBox.clap := ⟨fun _ => rfl, fun _ => rfl⟩

instance : Plain DynBox.pasp := ⟨fun _ => rfl, fun _ => rfl⟩

instance : Plain DynBox.avcC := ⟨fun _ => rfl, fun _ => rfl⟩

instance : Plain DynBox.btrt := ⟨fun _ => rfl, fun _ => rfl⟩

instance : Plain DynBox.esds := ⟨fun _ => rfl, fun _ => rfl⟩

instance : Plain DynBox.mfhd := ⟨fun _ => rfl, fun _ => rfl⟩

instance : Plain DynBox.tfhd := ⟨fun _ => rfl, fun _ => rfl⟩

instance : Plain DynBox.tfdt := ⟨fun _ => rfl, fun _ => rfl⟩

instance : Plain DynBox.trun := ⟨fun _ => rfl, fun _ => rfl⟩

instance : Plain DynBox.mdat := ⟨fun _ => rfl, fun _ => rfl⟩

instance : Plain DynBox.av1C := ⟨fun _ => rfl, fun _ => rfl⟩

instance : Plain DynBox.colr := ⟨fun _ => rfl, fun _ => rfl⟩

instance : Plain DynBox.hvcC := ⟨fun _ => rfl, fun _ => rfl⟩

theorem mux_mdia (box : Mdia DynBox) :
    mux (.mdia box) = headed Mdia.name (primitiveSizeMdia box) (primitiveMuxMdia box) := rfl

theorem mux_minf (box : Minf DynBox) :
    mux (.minf box) = headed Minf.name (primitiveSizeMinf box) (primitiveMuxMinf box) := rfl

theorem mux_dinf (box : Dinf DynBox) :
    mux (.dinf box) = headed Dinf.name (primitiveSizeDinf box) (primitiveMuxDinf box) := rfl

theorem mux_stbl (box : Stbl DynBox) :
    mux (.stbl box) = headed Stbl.name (primitiveSizeStbl box) (primitiveMuxStbl box) := rfl

theorem mux_dref (box : Dref DynBox) :
    mux (.dref box) = (do
      box.validate
      headed Dref.name (primitiveSizeDref box) (primitiveMuxDref box)) := rfl

theorem mux_stsd (box : Stsd DynBox) :
    mux (.stsd box) = (do
      box.validate
      headed Stsd.name (primitiveSizeStsd box) (primitiveMuxStsd box)) := rfl

theorem mux_traf (box : Traf DynBox) :
    mux (.traf box) = (do
      let payload ← primitiveMuxTraf box
      return boxHeader Traf.name (boxSize (primitiveSizeTraf box)) ++ payload) := rfl

theorem sizes_traks (boxes : List (Trak DynBox)) : sizes (boxes.map .trak) = sizeTraks boxes := by
  induction boxes with
  | nil => rfl
  | cons box boxes ih =>
      rw [List.map_cons, sizes, ih]
      rfl

theorem muxAll_traks (boxes : List (Trak DynBox)) :
    muxAll (boxes.map .trak) = muxTraks boxes := by
  induction boxes with
  | nil => rfl
  | cons box boxes ih =>
      rw [List.map_cons, muxAll, ih]
      rfl

theorem sizes_trafs (boxes : List (Traf DynBox)) : sizes (boxes.map .traf) = sizeTrafs boxes := by
  induction boxes with
  | nil => rfl
  | cons box boxes ih =>
      rw [List.map_cons, sizes, ih]
      rfl

theorem muxAll_trafs (boxes : List (Traf DynBox)) :
    muxAll (boxes.map .traf) = muxTrafs boxes := by
  induction boxes with
  | nil => rfl
  | cons box boxes ih =>
      rw [List.map_cons, muxAll, ih, mux_traf, muxTrafs]
      simp only [bind_assoc, pure_bind, List.append_assoc]

theorem sizes_mvex (box : Option (Mvex DynBox)) :
    sizes (box.toList.map .mvex) = sizeMvexOption box := by
  cases box with
  | none => rfl
  | some box => exact sizes_singleton _

theorem muxAll_mvex (box : Option (Mvex DynBox)) :
    muxAll (box.toList.map .mvex) = muxMvexOption box := by
  cases box with
  | none => rfl
  | some box => exact muxAll_singleton _

theorem sizes_edts (box : Option (Edts DynBox)) :
    sizes (box.toList.map .edts) = sizeEdtsOption box := by
  cases box with
  | none => rfl
  | some box => exact sizes_singleton _

theorem muxAll_edts (box : Option (Edts DynBox)) :
    muxAll (box.toList.map .edts) = muxEdtsOption box := by
  cases box with
  | none => rfl
  | some box => exact muxAll_singleton _

/-- The measured size of a box is that of its own part and of the boxes inside
it. -/
theorem size_eq (box : DynBox) : size box = boxSize (ownSize box + sizes (parts box)) := by
  cases box with
  | moov box =>
      cases box
      simp only [parts, sizes_append, sizes_singleton, sizes_traks, sizes_mvex, ownSize, Nat.zero_add]
      rfl
  | mvex box =>
      cases box
      rw [parts, sizes_append, sizes_append, sizes_list, sizes_option, ownSize, Nat.zero_add]
      rfl
  | trak box =>
      cases box
      simp only [parts, sizes_append, sizes_singleton, sizes_edts, ownSize, Nat.zero_add]
      rfl
  | mdia box =>
      cases box
      simp only [parts, sizes_append, sizes_singleton, ownSize, Nat.zero_add]
      rfl
  | edts box =>
      cases box
      simp only [parts, sizes_append, sizes_option, ownSize, Nat.zero_add]
      rfl
  | minf box =>
      cases box
      simp only [parts, sizes_append, sizes_singleton, sizes_option, ownSize, Nat.zero_add]
      rfl
  | dinf box =>
      cases box
      simp only [parts, sizes_append, sizes_singleton, ownSize, Nat.zero_add]
      rfl
  | stbl box =>
      cases box
      simp only [parts, sizes_append, sizes_singleton, sizes_option, ownSize, Nat.zero_add]
      rfl
  | moof box =>
      cases box
      simp only [parts, sizes_append, sizes_singleton, sizes_trafs, ownSize, Nat.zero_add]
      rfl
  | traf box =>
      cases box
      simp only [parts, sizes_append, sizes_singleton, sizes_option, ownSize, Nat.zero_add, size,
        primitiveSizeTraf]
      congr 1
      omega
  | dref box =>
      cases box
      rfl
  | stsd box =>
      cases box
      rfl
  | avc1 box =>
      cases box
      simp only [parts, VisualSampleEntry.parts, sizes_append, sizes_singleton, sizes_option, ownSize,
        size, primitiveSizeAvc1, SampleEntry.size, SampleEntryExtension.size, VisualSampleEntry.size]
      congr 1
      omega
  | av01 box =>
      cases box
      simp only [parts, VisualSampleEntry.parts, sizes_append, sizes_singleton, sizes_option, ownSize,
        size, primitiveSizeAv01, SampleEntry.size, SampleEntryExtension.size, VisualSampleEntry.size]
      congr 1
      omega
  | hev1 box =>
      cases box
      simp only [parts, VisualSampleEntry.parts, sizes_append, sizes_singleton, sizes_option, ownSize,
        size, primitiveSizeHev1, SampleEntry.size, SampleEntryExtension.size, VisualSampleEntry.size]
      congr 1
      omega
  | mp4a box =>
      cases box
      simp only [parts, sizes_append, sizes_singleton, sizes_option, ownSize, size, primitiveSizeMp4a,
        SampleEntry.size, SampleEntryExtension.size]
      congr 1
      omega
  | opus box =>
      cases box
      simp only [parts, sizes_append, sizes_option, ownSize, size, primitiveSizeOpus,
        SampleEntry.size, SampleEntryExtension.size]
      congr 1
      omega
  | _ => rfl

theorem primitiveMuxMoov_eq (box : Moov DynBox) :
    primitiveMuxMoov box = muxAll (parts (.moov box)) := by
  cases box
  simp only [parts.eq_def, muxAll_append, muxAll_singleton, muxAll_traks, muxAll_mvex, bind_assoc, pure_bind,
    List.append_assoc, primitiveMuxMoov, Plain.mux]

theorem primitiveMuxMvex_eq (box : Mvex DynBox) :
    primitiveMuxMvex box = muxAll (parts (.mvex box)) := by
  cases box
  rw [parts.eq_def, muxAll_append, muxAll_append, muxAll_list, muxAll_option, primitiveMuxMvex]
  simp only [bind_assoc, pure_bind]

theorem primitiveMuxTrak_eq (box : Trak DynBox) :
    primitiveMuxTrak box = muxAll (parts (.trak box)) := by
  cases box
  simp only [parts.eq_def, muxAll_append, muxAll_singleton, muxAll_edts, bind_assoc, pure_bind,
    List.append_assoc, primitiveMuxTrak, Plain.mux, mux_mdia]

theorem primitiveMuxMdia_eq (box : Mdia DynBox) :
    primitiveMuxMdia box = muxAll (parts (.mdia box)) := by
  cases box
  simp only [parts.eq_def, muxAll_append, muxAll_singleton, bind_assoc, pure_bind,
    List.append_assoc, primitiveMuxMdia, Plain.mux, mux_minf]

theorem primitiveMuxEdts_eq (box : Edts DynBox) :
    primitiveMuxEdts box = muxAll (parts (.edts box)) := by
  cases box
  rw [parts.eq_def, muxAll_append, muxAll_option, primitiveMuxEdts]

theorem primitiveMuxMinf_eq (box : Minf DynBox) :
    primitiveMuxMinf box = muxAll (parts (.minf box)) := by
  cases box
  simp only [parts.eq_def, muxAll_append, muxAll_singleton, muxAll_option, bind_assoc, pure_bind,
    List.append_assoc, primitiveMuxMinf, mux_dinf, mux_stbl]

theorem primitiveMuxDinf_eq (box : Dinf DynBox) :
    primitiveMuxDinf box = muxAll (parts (.dinf box)) := by
  cases box
  simp only [parts.eq_def, muxAll_append, muxAll_singleton, bind_assoc, primitiveMuxDinf, mux_dref]

theorem primitiveMuxStbl_eq (box : Stbl DynBox) :
    primitiveMuxStbl box = muxAll (parts (.stbl box)) := by
  cases box
  simp only [parts.eq_def, muxAll_append, muxAll_singleton, muxAll_option, bind_assoc, pure_bind,
    List.append_assoc, primitiveMuxStbl, Plain.mux, mux_stsd]

theorem primitiveMuxMoof_eq (box : Moof DynBox) :
    primitiveMuxMoof box = muxAll (parts (.moof box)) := by
  cases box
  simp only [parts.eq_def, muxAll_append, muxAll_singleton, muxAll_trafs, bind_assoc, pure_bind,
    List.append_assoc, primitiveMuxMoof, Plain.mux]

theorem primitiveMuxTraf_eq (box : Traf DynBox) :
    primitiveMuxTraf box = muxAll (parts (.traf box)) := by
  cases box
  simp only [parts.eq_def, muxAll_append, muxAll_singleton, muxAll_option, bind_assoc, pure_bind,
    List.append_assoc, primitiveMuxTraf, Plain.mux]

/-- A container writes the boxes inside it behind its header. -/
theorem headed_eq {name : FourCC} {primitiveSize : Nat} {payload : Except IoFault Bytes}
    {boxes : List DynBox} (same : payload = muxAll boxes) :
    headed name primitiveSize payload = (do
      let own ← .ok []
      let rest ← muxAll boxes
      return boxHeader name (boxSize primitiveSize) ++ own ++ rest) := by
  simp only [headed, same, ok_bind, List.append_nil]

theorem plain_eq {β : Type} [BoxType β] (box : β) :
    BoxType.mux box = (do
      let own ← checked box
      let rest ← muxAll []
      return boxHeader (BoxType.name β) (BoxType.size box) ++ own ++ rest) := by
  simp only [BoxType.mux, checked, muxAll, bind_assoc, ok_bind, List.append_nil]

/-- A box is written as its header, its own part and the boxes inside it. -/
theorem mux_eq (box : DynBox) (short : size box ≤ u32Max) :
    ∃ name, mux box = (do
      let own ← ownMux box
      let rest ← muxAll (parts box)
      return boxHeader name (size box) ++ own ++ rest) := by
  cases box with
  | moov box => exact ⟨_, headed_eq (primitiveMuxMoov_eq box)⟩
  | mvex box => exact ⟨_, headed_eq (primitiveMuxMvex_eq box)⟩
  | trak box => exact ⟨_, headed_eq (primitiveMuxTrak_eq box)⟩
  | mdia box => exact ⟨_, headed_eq (primitiveMuxMdia_eq box)⟩
  | edts box => exact ⟨_, headed_eq (primitiveMuxEdts_eq box)⟩
  | minf box => exact ⟨_, headed_eq (primitiveMuxMinf_eq box)⟩
  | dinf box => exact ⟨_, headed_eq (primitiveMuxDinf_eq box)⟩
  | stbl box => exact ⟨_, headed_eq (primitiveMuxStbl_eq box)⟩
  | moof box => exact ⟨_, headed_eq (primitiveMuxMoof_eq box)⟩
  | traf box => exact ⟨_, headed_eq (primitiveMuxTraf_eq box)⟩
  | dref box =>
      cases box
      refine ⟨Dref.name, ?_⟩
      simp only [mux, ownMux, parts, size, primitiveMuxDref, headed, bind_assoc, pure_bind,
        List.append_assoc]
  | stsd box =>
      cases box
      refine ⟨Stsd.name, ?_⟩
      simp only [mux, ownMux, parts, size, primitiveMuxStsd, headed, bind_assoc, pure_bind,
        List.append_assoc]
  | avc1 box =>
      cases box
      refine ⟨Avc1.name, ?_⟩
      simp only [mux, ownMux, parts, VisualSampleEntry.parts, size, primitiveMuxAvc1, headed,
        SampleEntry.mux, SampleEntryExtension.mux, VisualSampleEntry.mux_eq, muxAll_append,
        muxAll_option, muxAll_singleton, bind_assoc, pure_bind, List.append_assoc]
  | av01 box =>
      cases box
      refine ⟨Av01.name, ?_⟩
      simp only [mux, ownMux, parts, VisualSampleEntry.parts, size, primitiveMuxAv01, headed,
        SampleEntry.mux, SampleEntryExtension.mux, VisualSampleEntry.mux_eq, muxAll_append,
        muxAll_option, muxAll_singleton, bind_assoc, pure_bind, List.append_assoc]
  | hev1 box =>
      cases box
      refine ⟨Hev1.name, ?_⟩
      simp only [mux, ownMux, parts, VisualSampleEntry.parts, size, primitiveMuxHev1, headed,
        SampleEntry.mux, SampleEntryExtension.mux, VisualSampleEntry.mux_eq, muxAll_append,
        muxAll_option, muxAll_singleton, bind_assoc, pure_bind, List.append_assoc]
  | mp4a box =>
      cases box
      refine ⟨Mp4a.name, ?_⟩
      simp only [mux, ownMux, parts, size, primitiveMuxMp4a, headed, SampleEntry.mux,
        SampleEntryExtension.mux, muxAll_append, muxAll_option, muxAll_singleton, ok_bind,
        bind_assoc, pure_bind, List.append_assoc]
  | opus box =>
      cases box
      refine ⟨Opus.name, ?_⟩
      simp only [mux, ownMux, parts, size, primitiveMuxOpus, headed, SampleEntry.mux,
        SampleEntryExtension.mux, muxAll_append, muxAll_option, ok_bind, bind_assoc, pure_bind,
        List.append_assoc]
  | unknown header data =>
      refine ⟨header.boxType, ?_⟩
      have plain : size (.unknown header data) = data.length + 8 := by
        rw [size] at short ⊢
        unfold boxSize at short ⊢
        split at short
        · omega
        · rename_i small
          rw [if_neg small]
      rw [plain]
      simp only [mux, ownMux, parts, muxAll, ok_bind, List.append_nil]
      rfl
  | _ box => exact ⟨_, plain_eq box⟩

/-! ## What is measured and not written -/

/-- The types of boxes that can be shorter than they measure themselves to be,
and when. -/
def Overstated : DynBox → Prop
  | .sbgp box => box.groupingType = none
  | .stz2 box => box.samples ≠ []
  | .esds box => ¬∀ text ∈ DynDescriptor.urlsEs box.esDescriptor,
      ∀ char ∈ text.toList, char.toNat < 128
  | _ => False

/-- The part of its own is no longer than measured, and as long as measured unless
the box overstates it. -/
def Measured (box : DynBox) (own : Bytes) : Prop :=
  own.length ≤ ownSize box ∧ (own.length = ownSize box ↔ ¬Overstated box)

theorem measured_of_length {box : DynBox} {own : Bytes} (honest : ¬Overstated box)
    (length : own.length = ownSize box) : Measured box own :=
  ⟨Nat.le_of_eq length, fun _ => honest, fun _ => length⟩

theorem measured_exact {β : Type} [BoxType β] [exactSize : ExactSize β] {box : β} {own : Bytes}
    (written : checked box = .ok own) : own.length = BoxType.primitiveSize box := by
  obtain ⟨_, valid, payload⟩ := sequence_eq_ok_iff.mp written
  exact exactSize.exact box own valid payload

theorem ownMux_measured (box : DynBox) {own : Bytes} (written : ownMux box = .ok own) :
    Measured box own := by
  cases box with
  | sbgp box =>
      obtain ⟨_, _, payload⟩ := sequence_eq_ok_iff.mp written
      have counted := Sbgp.length_primitiveMux payload
      change own.length ≤ box.primitiveSize ∧ (own.length = box.primitiveSize ↔ ¬box.groupingType = none)
      cases grouping : box.groupingType <;> simp [grouping] at counted ⊢ <;> omega
  | stz2 box =>
      obtain ⟨_, _, payload⟩ := sequence_eq_ok_iff.mp written
      obtain ⟨enough, exact_iff⟩ := Stz2.length_primitiveMux payload
      refine ⟨enough, exact_iff.trans ?_⟩
      rw [Overstated, not_not]
  | esds box =>
      obtain ⟨_, _, payload⟩ := sequence_eq_ok_iff.mp written
      have counted := Esds.length_primitiveMux payload
      have ascii := DynDescriptor.gap_eq_zero_iff (DynDescriptor.urlsEs box.esDescriptor)
      change own.length ≤ box.primitiveSize ∧ (own.length = box.primitiveSize ↔ ¬¬_)
      rw [not_not, ← ascii]
      omega
  | moov | mvex | trak | mdia | edts | minf | dinf | stbl | moof | traf | unknown =>
      cases written
      exact measured_of_length id rfl
  | dref box =>
      obtain ⟨_, _, rest⟩ := sequence_eq_ok_iff.mp written
      obtain ⟨first, firstWritten, same⟩ := sequence_eq_ok_iff.mp rest
      cases same
      refine measured_of_length id ?_
      rw [List.length_append, FullBoxHeader.length_mux firstWritten, length_beU32, ownSize]
  | stsd box =>
      obtain ⟨_, _, rest⟩ := sequence_eq_ok_iff.mp written
      obtain ⟨first, firstWritten, same⟩ := sequence_eq_ok_iff.mp rest
      cases same
      refine measured_of_length id ?_
      rw [List.length_append, FullBoxHeader.length_mux firstWritten, length_beU32, ownSize]
  | avc1 | av01 | hev1 =>
      obtain ⟨_, _, same⟩ := sequence_eq_ok_iff.mp written
      cases same
      refine measured_of_length id ?_
      rw [List.length_append, SampleEntry.length_fields, VisualSampleEntry.length_fields, ownSize]
  | mp4a | opus =>
      obtain ⟨_, _, same⟩ := sequence_eq_ok_iff.mp written
      cases same
      refine measured_of_length id ?_
      rw [List.length_append, SampleEntry.length_fields, AudioSampleEntry.length_fields, ownSize]
  | _ => exact measured_of_length id (measured_exact written)

/-! ## The law for trees -/

/-- A box, a box inside it, a box inside that one, and so on. -/
inductive Nested : DynBox → DynBox → Prop
  | self {box : DynBox} : Nested box box
  | part {box inner deeper : DynBox} (inside : inner ∈ parts box) (nested : Nested inner deeper) :
      Nested box deeper

theorem Nested.trans {box inner deeper : DynBox} (first : Nested box inner)
    (second : Nested inner deeper) : Nested box deeper := by
  induction first with
  | self => exact second
  | part inside _ ih => exact .part inside (ih second)

/-- A property of a box and of all boxes inside it. -/
def Everywhere (holds : DynBox → Prop) (box : DynBox) : Prop :=
  ∀ inner, Nested box inner → holds inner

theorem everywhere_iff {holds : DynBox → Prop} (box : DynBox) :
    Everywhere holds box ↔ holds box ∧ ∀ inner ∈ parts box, Everywhere holds inner := by
  constructor
  · intro all
    exact ⟨all box .self, fun inner inside deeper nested => all deeper (.part inside nested)⟩
  · rintro ⟨own, inside⟩ inner nested
    cases nested with
    | self => exact own
    | part member nested => exact inside _ member _ nested

theorem everywhere_leaf {holds : DynBox → Prop} {box : DynBox} (leaf : parts box = [])
    (own : holds box) : Everywhere holds box :=
  (everywhere_iff box).mpr ⟨own, by rw [leaf]; exact List.forall_mem_nil _⟩

/-- No box of a tree overstates its own part. -/
def Honest (box : DynBox) : Prop := ∀ inner, Nested box inner → ¬Overstated inner

theorem honest_iff (box : DynBox) :
    Honest box ↔ ¬Overstated box ∧ ∀ inner ∈ parts box, Honest inner :=
  everywhere_iff box

theorem sizes_mem {boxes : List DynBox} {box : DynBox} (member : box ∈ boxes) :
    size box ≤ sizes boxes := by
  induction boxes with
  | nil => cases member
  | cons first boxes ih =>
      rw [sizes]
      cases member with
      | head => exact Nat.le_add_right _ _
      | tail _ later => exact Nat.le_trans (ih later) (Nat.le_add_left _ _)

/-- A box inside another is smaller. -/
theorem size_lt_of_mem_parts {box inner : DynBox} (inside : inner ∈ parts box) :
    size inner < size box := by
  have part := sizes_mem inside
  rw [size_eq box]
  unfold boxSize
  split <;> omega

/-- Where the boxes inside a box keep the law, or fall short of it, so do their
bytes together. -/
theorem length_muxAll {boxes : List DynBox} {bytes : Bytes} (written : muxAll boxes = .ok bytes)
    (law : ∀ box ∈ boxes, ∀ inner, mux box = .ok inner →
      inner.length ≤ size box ∧ (inner.length = size box ↔ Honest box)) :
    bytes.length ≤ sizes boxes ∧ (bytes.length = sizes boxes ↔ ∀ box ∈ boxes, Honest box) := by
  induction boxes generalizing bytes with
  | nil =>
      cases written
      simp [sizes]
  | cons box boxes ih =>
      rw [muxAll] at written
      obtain ⟨first, firstWritten, more⟩ := sequence_eq_ok_iff.mp written
      obtain ⟨rest, restWritten, same⟩ := sequence_eq_ok_iff.mp more
      cases same
      obtain ⟨firstShort, firstExact⟩ := law box List.mem_cons_self first firstWritten
      obtain ⟨restShort, restExact⟩ :=
        ih restWritten fun other member => law other (List.mem_cons_of_mem _ member)
      rw [List.length_append, sizes, List.forall_mem_cons, ← firstExact, ← restExact]
      omega

/-- A written tree is no longer than its size says, and as long exactly when no
box in it overstates its own part. -/
theorem length_mux (box : DynBox) {bytes : Bytes} (written : mux box = .ok bytes)
    (short : size box ≤ u32Max) :
    bytes.length ≤ size box ∧ (bytes.length = size box ↔ Honest box) := by
  induction measure : size box using Nat.strong_induction_on generalizing box bytes with
  | _ total ih =>
      obtain ⟨name, equation⟩ := mux_eq box short
      rw [equation] at written
      obtain ⟨own, ownWritten, more⟩ := sequence_eq_ok_iff.mp written
      obtain ⟨rest, restWritten, same⟩ := sequence_eq_ok_iff.mp more
      cases same
      obtain ⟨ownShort, ownExact⟩ := ownMux_measured box ownWritten
      obtain ⟨restShort, restExact⟩ := length_muxAll restWritten fun inner inside innerBytes innerWritten => by
        have smaller := size_lt_of_mem_parts inside
        exact ih (size inner) (by omega) inner innerWritten (by omega) rfl
      have whole : size box = ownSize box + sizes (parts box) + 8 := by
        rw [size_eq box] at short ⊢
        unfold boxSize at short ⊢
        split at short
        · omega
        · rename_i small
          rw [if_neg small]
      rw [honest_iff, ← ownExact, ← restExact, List.length_append, List.length_append,
        length_boxHeader, if_neg (Nat.not_lt.mpr short)]
      omega

/-- Whatever the law, the size field holds the measured size. -/
theorem sizeField_mux (box : DynBox) {bytes : Bytes} (written : mux box = .ok bytes)
    (short : size box ≤ u32Max) : ofBytesBE (bytes.take 4) = size box := by
  obtain ⟨name, equation⟩ := mux_eq box short
  rw [equation] at written
  obtain ⟨own, _, more⟩ := sequence_eq_ok_iff.mp written
  obtain ⟨rest, _, same⟩ := sequence_eq_ok_iff.mp more
  cases same
  unfold boxHeader
  rw [if_neg (Nat.not_lt.mpr short), List.append_assoc, List.append_assoc, List.append_assoc,
    List.take_append_of_le_length (by rw [length_toBytesBE]), List.take_of_length_le (by rw [length_toBytesBE]),
    ofBytesBE_toBytesBE]
  unfold u32Max at short
  exact Nat.mod_eq_of_lt (by omega)

theorem muxAll_mem {boxes : List DynBox} {bytes : Bytes} (written : muxAll boxes = .ok bytes)
    {box : DynBox} (member : box ∈ boxes) :
    ∃ inner, mux box = .ok inner ∧ inner <:+: bytes := by
  induction boxes generalizing bytes with
  | nil => cases member
  | cons first boxes ih =>
      rw [muxAll] at written
      obtain ⟨head, headWritten, more⟩ := sequence_eq_ok_iff.mp written
      obtain ⟨rest, restWritten, same⟩ := sequence_eq_ok_iff.mp more
      cases same
      cases member with
      | head => exact ⟨head, headWritten, (List.prefix_append _ _).isInfix⟩
      | tail _ later =>
          obtain ⟨inner, innerWritten, within⟩ := ih restWritten later
          exact ⟨inner, innerWritten, within.trans (List.suffix_append _ _).isInfix⟩

/-- The bytes of a box inside another stand among its bytes. -/
theorem mux_nested {box inner : DynBox} (nested : Nested box inner) {bytes : Bytes}
    (written : mux box = .ok bytes) (short : size box ≤ u32Max) :
    ∃ innerBytes, mux inner = .ok innerBytes ∧ innerBytes <:+: bytes ∧ size inner ≤ u32Max := by
  induction nested generalizing bytes with
  | self => exact ⟨bytes, written, List.infix_rfl, short⟩
  | @part box inner deeper inside nested ih =>
      have smaller := size_lt_of_mem_parts inside
      obtain ⟨name, equation⟩ := mux_eq box short
      rw [equation] at written
      obtain ⟨own, _, more⟩ := sequence_eq_ok_iff.mp written
      obtain ⟨rest, restWritten, same⟩ := sequence_eq_ok_iff.mp more
      cases same
      obtain ⟨part, partWritten, within⟩ := muxAll_mem restWritten inside
      obtain ⟨innerBytes, innerWritten, deeperWithin, innerShort⟩ := ih partWritten (by omega)
      exact ⟨innerBytes, innerWritten,
        deeperWithin.trans (within.trans (List.suffix_append _ _).isInfix), innerShort⟩

/-- The bytes of a box are as many as its size says, and its size field says the
same. -/
structure SizeLaw (box : DynBox) (bytes : Bytes) : Prop where
  length : bytes.length = size box
  field : ofBytesBE (bytes.take 4) = size box

theorem sizeLaw_iff_honest {box : DynBox} {bytes : Bytes} (written : mux box = .ok bytes)
    (short : size box ≤ u32Max) : SizeLaw box bytes ↔ Honest box :=
  ⟨fun law => (length_mux box written short).2.mp law.length,
    fun honest => ⟨(length_mux box written short).2.mpr honest, sizeField_mux box written short⟩⟩

theorem Honest.nested {box inner : DynBox} (honest : Honest box) (nested : Nested box inner) :
    Honest inner := by
  induction nested with
  | self => exact honest
  | part inside _ ih => exact ih ((honest_iff _).mp honest |>.2 _ inside)

end DynBox

/-! ## Movie fragments -/

/-- The boxes of which movie fragments are made. -/
def FragmentBox : Type :=
  { box : DynBox // ∃ kind ∈ ([.moof, .mfhd, .traf, .tfhd, .tfdt, .trun, .sbgp, .subs, .mdat] :
      List BoxKind), box.kind = some kind }

namespace FragmentBox

open DynBox

/-- A box of a movie fragment and all boxes in it are as long as measured and say
so, exactly when none of them overstates its own part. -/
theorem sizeLaw_everywhere_iff (box : FragmentBox) {bytes : Bytes} (written : mux box.val = .ok bytes)
    (short : size box.val < 2 ^ 32) :
    (∀ inner, Nested box.val inner →
      ∃ innerBytes, mux inner = .ok innerBytes ∧ innerBytes <:+: bytes ∧
        SizeLaw inner innerBytes) ↔
    ∀ inner, Nested box.val inner → ¬Overstated inner := by
  have within : size box.val ≤ u32Max := by
    unfold u32Max
    omega
  constructor
  · intro law
    obtain ⟨whole, wholeWritten, _, wholeLaw⟩ := law box.val .self
    exact (sizeLaw_iff_honest wholeWritten within).mp wholeLaw
  · intro honest inner nested
    obtain ⟨innerBytes, innerWritten, among, innerShort⟩ := mux_nested nested written within
    exact ⟨innerBytes, innerWritten, among,
      (sizeLaw_iff_honest innerWritten innerShort).mpr (Honest.nested honest nested)⟩

/-- A movie fragment with a header alone. -/
def headerOnly : FragmentBox := ⟨.moof (.new (.new 1) []), .moof, by simp, rfl⟩

theorem sizeLaw_headerOnly : ∃ bytes, mux headerOnly.val = .ok bytes ∧
    ∀ inner, Nested headerOnly.val inner →
      ∃ innerBytes, mux inner = .ok innerBytes ∧ innerBytes <:+: bytes ∧
        SizeLaw inner innerBytes := by
  refine ⟨_, rfl, (sizeLaw_everywhere_iff headerOnly rfl (by decide +kernel)).mpr ?_⟩
  have inside : Honest (.mfhd (.new 1)) := (honest_iff _).mpr ⟨id, by simp [parts]⟩
  exact (honest_iff _).mpr ⟨id, by simpa [parts, headerOnly, Moof.new] using inside⟩

/-- Sample groups of version 0 have no grouping type but are measured with one. -/
theorem ungrouped_overstated :
    ∃ bytes, mux (.sbgp ⟨.new Sbgp.name 0 0, none, []⟩) = .ok bytes ∧ bytes.length = 16 ∧
      size (.sbgp ⟨.new Sbgp.name 0 0, none, []⟩) = 20 :=
  ⟨_, rfl, by decide +kernel, by decide +kernel⟩

end FragmentBox

/-! ## Sample tables -/

/-- The boxes of which sample tables are made, and the table of them. -/
def SampleTableBox : Type :=
  { box : DynBox // ∃ kind ∈ ([.stts, .ctts, .stsc, .stsz, .stz2, .stco, .co64, .stss, .stsh,
      .padb, .stdp, .sdtp, .stbl] : List BoxKind), box.kind = some kind }

namespace SampleTableBox

open DynBox

/-- A box of a sample table is as long as measured and says so, exactly when no
box in it overstates its own part. -/
theorem length_eq_size_iff (box : SampleTableBox) {bytes : Bytes}
    (written : mux box.val = .ok bytes) (short : size box.val < 2 ^ 32) :
    (bytes.length = size box.val ∧ ofBytesBE (bytes.take 4) = size box.val) ↔
      ∀ inner, Nested box.val inner → ¬Overstated inner := by
  have within : size box.val ≤ u32Max := by
    unfold u32Max
    omega
  have law := sizeLaw_iff_honest written within
  exact ⟨fun both => law.mp ⟨both.1, both.2⟩, fun honest => ⟨(law.mpr honest).1, (law.mpr honest).2⟩⟩

/-- A table of chunk offsets with one entry. -/
def oneChunk : SampleTableBox := ⟨.stco ⟨.new Stco.name 0 0, [40]⟩, .stco, by simp, rfl⟩

theorem length_oneChunk : ∃ bytes, mux oneChunk.val = .ok bytes ∧
    bytes.length = size oneChunk.val ∧ ofBytesBE (bytes.take 4) = size oneChunk.val := by
  refine ⟨_, rfl, (length_eq_size_iff oneChunk rfl (by decide +kernel)).mpr ?_⟩
  exact (honest_iff _).mpr ⟨id, by simp [parts, oneChunk]⟩

/-- A compact size of eight bits is written in one byte and measured with eight. -/
theorem compactSize_overstated :
    ∃ bytes, mux (.stz2 ⟨.new Stz2.name 0 0, 0, 8, [1]⟩) = .ok bytes ∧ bytes.length = 21 ∧
      size (.stz2 ⟨.new Stz2.name 0 0, 0, 8, [1]⟩) = 28 :=
  ⟨_, rfl, by decide +kernel, by decide +kernel⟩

end SampleTableBox

end ScuffleVideo.Mp4
