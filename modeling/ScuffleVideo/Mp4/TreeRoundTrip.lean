import ScuffleVideo.Mp4.BoxTree
import ScuffleVideo.Mp4.FragmentRoundTrip

/-!
# Trees of boxes, written and read back

What one box needs to come back is that its own part fits its type and that the boxes inside
it come back.  A tree in which every box fits, and none overstates its size, is read back from
its bytes as the same tree, and so is a file of such trees.
-/

namespace ScuffleVideo.Wire.Reader

variable {ε α : Type}

/-- Records in a row are read as well if they are counted. -/
theorem ReadsAll.repeated {reader : Reader ε α} {values : List α} {bytes : Bytes}
    (records : ReadsAll reader values bytes) :
    Reads (Reader.repeated reader values.length) bytes values := by
  induction records with
  | nil => exact Reads.pure []
  | cons read _ _ ih => exact read.bind (ih.finish (Reads.pure _))

/-- Records behind records are read as both are. -/
theorem ReadsAll.append {reader : Reader ε α} {first second : List α} {bytes others : Bytes}
    (records : ReadsAll reader first bytes) (more : ReadsAll reader second others) :
    ReadsAll reader (first ++ second) (bytes ++ others) := by
  induction records with
  | nil => exact more
  | cons read nonempty _ ih =>
      rw [List.append_assoc]
      exact .cons read nonempty ih

end ScuffleVideo.Wire.Reader

namespace ScuffleVideo.Mp4

open Wire Wire.Reader

/-! ## Fields of sample entries -/

theorem VisualSampleEntry.demux_reads (entry : VisualSampleEntry) :
    Reads demux entry.fields { entry with clap := none, colr := none, pasp := none } := by
  have name : Reads (readArray (readU8 : Reader IoFault UInt8) 32)
      (entry.compressorname.toList.flatMap fun byte => [byte]) entry.compressorname :=
    Reads.readArray fun byte _ => Reads.readU8 byte
  rw [List.flatMap_singleton'] at name
  apply (Reads.readU16 entry.preDefined).bind
  apply (Reads.readU16 entry.reserved).bind
  apply (Reads.readArray fun number _ => Reads.readU32 number).bind
  apply (Reads.readU16 entry.width).bind
  apply (Reads.readU16 entry.height).bind
  apply (Reads.readU32 entry.horizresolution).bind
  apply (Reads.readU32 entry.vertresolution).bind
  apply (Reads.readU32 entry.reserved2).bind
  apply (Reads.readU16 entry.frameCount).bind
  apply name.bind
  apply (Reads.readU16 entry.depth).bind
  apply (Reads.readI16 entry.preDefined3).finish
  exact Reads.pure _

theorem shiftRight_shiftLeft {rate : UInt32} (small : rate.toNat < 2 ^ 16) :
    rate <<< 16 >>> 16 = rate := by
  have half : (16 : UInt32).toNat = 16 := rfl
  apply UInt32.toNat_inj.mp
  simp only [UInt32.toNat_shiftRight, UInt32.toNat_shiftLeft, half, Nat.reduceMod,
    Nat.shiftLeft_eq, Nat.shiftRight_eq_div_pow]
  omega

/-- The rate comes back if its upper half is empty. -/
theorem AudioSampleEntry.demux_reads {entry : AudioSampleEntry}
    (small : entry.sampleRate.toNat < 2 ^ 16) : Reads demux entry.fields entry := by
  apply (Reads.readArray fun number _ => Reads.readU32 number).bind
  apply (Reads.readU16 entry.channelCount).bind
  apply (Reads.readU16 entry.sampleSize).bind
  apply (Reads.readU16 entry.preDefined).bind
  apply (Reads.readU16 entry.reserved2).bind
  apply (Reads.readU32 (entry.sampleRate <<< 16)).finish
  rw [shiftRight_shiftLeft small]
  exact Reads.pure entry

theorem SampleEntry.demux_reads {Extension : Type} [SampleEntryExtension Extension]
    {entry : SampleEntry Extension} {bytes : Bytes} {extension : Extension}
    (read : Reads (SampleEntryExtension.demux : Reader IoFault Extension) bytes extension) :
    Reads demux (entry.fields ++ bytes) { entry with extension } := by
  have reserved : Reads (readArray (readU8 : Reader IoFault UInt8) 6)
      (entry.reserved.toList.flatMap fun byte => [byte]) entry.reserved :=
    Reads.readArray fun byte _ => Reads.readU8 byte
  rw [List.flatMap_singleton'] at reserved
  rw [fields, List.append_assoc]
  apply reserved.bind
  apply (Reads.readU16 entry.dataReferenceIndex).bind
  apply read.finish
  exact Reads.pure _

namespace DynBox

/-! ## One box -/

/-- What a box of its own needs to come back, apart from the boxes inside it. -/
def Fits : DynBox → Prop
  | .ftyp box => Recovers.Fits box
  | .moov box => Sorted .moov [.mvhd, .trak, .mvex] box.header box.unknown
  | .mvhd box => Recovers.Fits box
  | .mvex box => Sorted .mvex [.trex, .mehd] box.header box.unknown
  | .trak box => Sorted .trak [.tkhd, .edts, .mdia] box.header box.unknown
  | .trex box => Recovers.Fits box
  | .mehd box => Recovers.Fits box
  | .mdia box => Sorted .mdia [.mdhd, .hdlr, .minf] box.header box.unknown
  | .tkhd box => Recovers.Fits box
  | .edts box => Sorted .edts [.elst] box.header box.unknown
  | .elst box => Recovers.Fits box
  | .mdhd box => Recovers.Fits box
  | .minf box => Sorted .minf [.vmhd, .smhd, .hmhd, .nmhd, .dinf, .stbl] box.header box.unknown
  | .hdlr box => Recovers.Fits box
  | .dinf box => Sorted .dinf [.dref] box.header box.unknown
  | .stbl box =>
      Sorted .stbl [.stsd, .stts, .ctts, .stsc, .stsz, .stz2, .stco, .co64, .stss, .stsh, .padb,
        .stdp, .sdtp, .sbgp, .subs] box.header box.unknown
  | .hmhd box => Recovers.Fits box
  | .nmhd box => Recovers.Fits box
  | .smhd box => Recovers.Fits box
  | .vmhd box => Recovers.Fits box
  | .dref box => box.header.header = ⟨Dref.name⟩ ∧ box.entries.length < 2 ^ 32
  | .stsd box => box.header.header = ⟨Stsd.name⟩ ∧ box.entries.length < 2 ^ 32
  | .stsz box => Recovers.Fits box
  | .stsc box => Recovers.Fits box
  | .stco box => Recovers.Fits box
  | .co64 box => Recovers.Fits box
  | .stts box => Recovers.Fits box
  | .stss box => Recovers.Fits box
  | .stz2 box => Recovers.Fits box
  | .stsh box => Recovers.Fits box
  | .ctts box => Recovers.Fits box
  | .stdp box => Recovers.Fits box
  | .sbgp box => Recovers.Fits box
  | .subs box => Recovers.Fits box
  | .padb box => Recovers.Fits box
  | .sdtp box => Recovers.Fits box
  | .url box => Recovers.Fits box
  | .avc1 box => Sorted .avc1 [.avcC, .btrt, .clap, .pasp, .colr] box.header box.unknown
  | .clap box => Recovers.Fits box
  | .pasp box => Recovers.Fits box
  | .avcC box => Recovers.Fits box
  | .btrt box => Recovers.Fits box
  | .mp4a box =>
      Sorted .mp4a [.btrt, .esds] box.header box.unknown ∧
        box.audioSampleEntry.extension.sampleRate.toNat < 2 ^ 16
  | .esds box => Recovers.Fits box
  | .moof box => Sorted .moof [.mfhd, .traf] box.header box.unknown
  | .mfhd box => Recovers.Fits box
  | .traf box => Sorted .traf [.tfhd, .trun, .sbgp, .subs, .tfdt] box.header box.unknown
  | .tfhd box => Recovers.Fits box
  | .tfdt box => Recovers.Fits box
  | .trun box => Recovers.Fits box
  | .mdat box => Recovers.Fits box
  | .av01 box => Sorted .av01 [.av1C, .btrt, .clap, .pasp, .colr] box.header box.unknown
  | .av1C box => Recovers.Fits box
  | .colr box => Recovers.Fits box
  | .hev1 box => Sorted .hev1 [.hvcC, .btrt, .clap, .pasp, .colr] box.header box.unknown
  | .hvcC box => Recovers.Fits box
  | .opus box =>
      Sorted .opus [.btrt] box.header box.unknown ∧
        box.audioSampleEntry.extension.sampleRate.toNat < 2 ^ 16
  | .unknown header _ => BoxKind.ofName header.boxType = none

/-- The type in the header of a box. -/
def typeName : DynBox → FourCC
  | .unknown header _ => header.boxType
  | box => (box.kind.map BoxKind.name).getD ⟨0, 0, 0, 0⟩

theorem bytes_of_mux {β : Type} [BoxType β] {box : β} {bytes : Bytes}
    (written : BoxType.mux box = .ok bytes) :
    ∃ payload, bytes = boxHeader (BoxType.name β) (BoxType.size box) ++ payload := by
  obtain ⟨_, _, more⟩ := sequence_eq_ok_iff.mp written
  obtain ⟨payload, _, same⟩ := sequence_eq_ok_iff.mp more
  cases same
  exact ⟨payload, rfl⟩

theorem bytes_of_headed {name : FourCC} {primitiveSize : Nat} {payload : Except IoFault Bytes}
    {bytes : Bytes} (written : headed name primitiveSize payload = .ok bytes) :
    ∃ payload, bytes = boxHeader name (boxSize primitiveSize) ++ payload := by
  obtain ⟨payload, _, same⟩ := sequence_eq_ok_iff.mp written
  cases same
  exact ⟨payload, rfl⟩

/-- A box is written behind a header of its own type. -/
theorem mux_named (box : DynBox) {bytes : Bytes} (written : mux box = .ok bytes)
    (short : size box ≤ u32Max) :
    ∃ payload, bytes = boxHeader (typeName box) (size box) ++ payload := by
  cases box with
  | moov | mvex | trak | mdia | edts | minf | dinf | stbl | avc1 | av01 | hev1 | mp4a | opus
  | moof | traf =>
      exact bytes_of_headed written
  | dref | stsd =>
      obtain ⟨_, _, more⟩ := sequence_eq_ok_iff.mp written
      exact bytes_of_headed more
  | unknown header data =>
      have plain : size (.unknown header data) = data.length + 8 := by
        rw [size] at short ⊢
        unfold boxSize at short ⊢
        split at short
        · omega
        · rename_i small
          rw [if_neg small]
      cases written
      exact ⟨data, by rw [plain]; rfl⟩
  | _ => exact bytes_of_mux written

section OneBox

variable (checks : OverflowChecks) (nested : Reader IoFault DynBox)

theorem ofData_checked {β : Type} [BoxType β] [Recovers β] {inject : β → DynBox}
    (kind : BoxKind) (plain : ∀ header data, ofKind checks nested header data kind =
      (do return inject (← BoxType.demux checks header data)))
    (same : kind.name = BoxType.name β) {box : β} {own rest : Bytes} (fits : Recovers.Fits box)
    (written : checked box = .ok own) (inside : ReadsAll nested [] rest) :
    ofData checks nested ⟨kind.name⟩ (own ++ rest) = .ok (inject box) := by
  obtain ⟨_, valid, payload⟩ := sequence_eq_ok_iff.mp written
  cases inside
  rw [List.append_nil]
  apply ofData_plain checks nested kind plain
  rw [same]
  exact Recovers.demux_eq checks box own fits valid payload

variable {nested} in
/-- Behind the fields of an entry come the boxes that it sorts. -/
theorem ofData_entered {Extension β : Type} [SampleEntryExtension Extension] {inject : β → DynBox}
    (kind : BoxKind) {collect : BoxHeader → SampleEntry Extension → List DynBox → Except IoFault β}
    (container : ∀ header data, ofKind checks nested header data kind =
      (do return inject (← (entered nested (collect header)).parse data)))
    {entry : SampleEntry Extension} {boxes : List DynBox} {box : β} {own rest : Bytes}
    (fields : Reads SampleEntry.demux own entry) (inside : ReadsAll nested boxes rest)
    (sorted : collect ⟨kind.name⟩ entry boxes = .ok box) :
    ofData checks nested ⟨kind.name⟩ (own ++ rest) = .ok (inject box) := by
  have others : ReadsLast (collected nested (collect ⟨kind.name⟩ entry)) rest box := by
    intro before
    rw [collected, bind_ok (inside.untilEnd IoFault.unfinished before), sorted]
    rfl
  have read : (entered nested (collect ⟨kind.name⟩)).parse (own ++ rest) = .ok box :=
    (fields.bindLast others).parse
  rw [ofData_name, container, read]
  rfl

variable {nested} in
/-- As many boxes are read as the field in front of them says. -/
theorem ofData_counted {β : Type} {inject : β → DynBox} (kind : BoxKind)
    {room : BoxHeader → Nat → Reader IoFault Unit} {make : FullBoxHeader → List DynBox → β}
    (container : ∀ header data, ofKind checks nested header data kind =
      (do return inject (← (counted nested (room header) make header).parse data)))
    (granted : ∀ header count, Reads (room header count) [] ())
    {header : FullBoxHeader} {boxes : List DynBox} {first rest : Bytes}
    (named : header.header = ⟨kind.name⟩) (few : boxes.length < 2 ^ 32)
    (written : header.mux = .ok first) (inside : ReadsAll nested boxes rest) :
    ofData checks nested ⟨kind.name⟩ (first ++ beU32 (UInt32.ofNat boxes.length) ++ rest) =
      .ok (inject (make header boxes)) := by
  have small : header.flags.toNat < 2 ^ 24 :=
    @FullBoxHeader.small_of_headed header .ok first (by rw [written]; rfl)
  rw [FullBoxHeader.mux_eq_ok small] at written
  cases written
  have read : Reads (counted nested (room ⟨kind.name⟩) make ⟨kind.name⟩)
      (header.bytes ++ (beU32 (UInt32.ofNat boxes.length) ++ rest)) (make header boxes) := by
    rw [← named]
    apply (FullBoxHeader.demux_reads small).bind
    apply (Reads.readU32 _).bind
    apply (granted _ _).bind
    rw [UInt32.toNat_ofNat_of_lt' few]
    exact inside.repeated.finish (Reads.pure _)
  rw [List.append_assoc, ofData_name, container, read.parse]
  rfl

theorem written_ok {check : Except IoFault Unit} {bytes own : Bytes}
    (written : (do check; return bytes) = .ok own) : bytes = own := by
  obtain ⟨_, _, same⟩ := sequence_eq_ok_iff.mp written
  exact Except.ok.inj same

variable {nested} in
/-- A box that fits comes back if the boxes inside it do. -/
theorem ofData_parts {box : DynBox} {own rest : Bytes} (fits : Fits box)
    (written : ownMux box = .ok own) (inside : ReadsAll nested (parts box) rest) :
    ofData checks nested ⟨typeName box⟩ (own ++ rest) = .ok box := by
  cases box with
  | ftyp box => exact ofData_checked checks nested .ftyp (fun _ _ => rfl) rfl fits written inside
  | moov box =>
      cases written
      exact ofData_collected checks nested .moov (fun _ _ => rfl)
        (inside.parse IoFault.unfinished) (collectMoov_parts fits)
  | mvhd box => exact ofData_checked checks nested .mvhd (fun _ _ => rfl) rfl fits written inside
  | mvex box =>
      cases written
      exact ofData_collected checks nested .mvex (fun _ _ => rfl)
        (inside.parse IoFault.unfinished) (collectMvex_parts fits)
  | trak box =>
      cases written
      exact ofData_collected checks nested .trak (fun _ _ => rfl)
        (inside.parse IoFault.unfinished) (collectTrak_parts fits)
  | trex box => exact ofData_checked checks nested .trex (fun _ _ => rfl) rfl fits written inside
  | mehd box => exact ofData_checked checks nested .mehd (fun _ _ => rfl) rfl fits written inside
  | mdia box =>
      cases written
      exact ofData_collected checks nested .mdia (fun _ _ => rfl)
        (inside.parse IoFault.unfinished) (collectMdia_parts fits)
  | tkhd box => exact ofData_checked checks nested .tkhd (fun _ _ => rfl) rfl fits written inside
  | edts box =>
      cases written
      exact ofData_collected checks nested .edts (fun _ _ => rfl)
        (inside.parse IoFault.unfinished) (collectEdts_parts fits)
  | elst box => exact ofData_checked checks nested .elst (fun _ _ => rfl) rfl fits written inside
  | mdhd box => exact ofData_checked checks nested .mdhd (fun _ _ => rfl) rfl fits written inside
  | minf box =>
      cases written
      exact ofData_collected checks nested .minf (fun _ _ => rfl)
        (inside.parse IoFault.unfinished) (collectMinf_parts fits)
  | hdlr box => exact ofData_checked checks nested .hdlr (fun _ _ => rfl) rfl fits written inside
  | dinf box =>
      cases written
      exact ofData_collected checks nested .dinf (fun _ _ => rfl)
        (inside.parse IoFault.unfinished) (collectDinf_parts fits)
  | stbl box =>
      cases written
      exact ofData_collected checks nested .stbl (fun _ _ => rfl)
        (inside.parse IoFault.unfinished) (collectStbl_parts fits)
  | hmhd box => exact ofData_checked checks nested .hmhd (fun _ _ => rfl) rfl fits written inside
  | nmhd box => exact ofData_checked checks nested .nmhd (fun _ _ => rfl) rfl fits written inside
  | smhd box => exact ofData_checked checks nested .smhd (fun _ _ => rfl) rfl fits written inside
  | vmhd box => exact ofData_checked checks nested .vmhd (fun _ _ => rfl) rfl fits written inside
  | dref box =>
      obtain ⟨_, _, more⟩ := sequence_eq_ok_iff.mp written
      obtain ⟨first, firstWritten, same⟩ := sequence_eq_ok_iff.mp more
      cases same
      exact ofData_counted checks .dref (fun _ _ => rfl) (fun _ _ => Reads.pure ()) fits.1 fits.2
        firstWritten inside
  | stsd box =>
      obtain ⟨_, _, more⟩ := sequence_eq_ok_iff.mp written
      obtain ⟨first, firstWritten, same⟩ := sequence_eq_ok_iff.mp more
      cases same
      exact ofData_counted checks .stsd (fun _ _ => rfl) (fun _ => allocate_reads _) fits.1 fits.2
        firstWritten inside
  | stsz box => exact ofData_checked checks nested .stsz (fun _ _ => rfl) rfl fits written inside
  | stsc box => exact ofData_checked checks nested .stsc (fun _ _ => rfl) rfl fits written inside
  | stco box => exact ofData_checked checks nested .stco (fun _ _ => rfl) rfl fits written inside
  | co64 box => exact ofData_checked checks nested .co64 (fun _ _ => rfl) rfl fits written inside
  | stts box => exact ofData_checked checks nested .stts (fun _ _ => rfl) rfl fits written inside
  | stss box => exact ofData_checked checks nested .stss (fun _ _ => rfl) rfl fits written inside
  | stz2 box => exact ofData_checked checks nested .stz2 (fun _ _ => rfl) rfl fits written inside
  | stsh box => exact ofData_checked checks nested .stsh (fun _ _ => rfl) rfl fits written inside
  | ctts box => exact ofData_checked checks nested .ctts (fun _ _ => rfl) rfl fits written inside
  | stdp box => exact ofData_checked checks nested .stdp (fun _ _ => rfl) rfl fits written inside
  | sbgp box => exact ofData_checked checks nested .sbgp (fun _ _ => rfl) rfl fits written inside
  | subs box => exact ofData_checked checks nested .subs (fun _ _ => rfl) rfl fits written inside
  | padb box => exact ofData_checked checks nested .padb (fun _ _ => rfl) rfl fits written inside
  | sdtp box => exact ofData_checked checks nested .sdtp (fun _ _ => rfl) rfl fits written inside
  | url box => exact ofData_checked checks nested .url (fun _ _ => rfl) rfl fits written inside
  | avc1 box =>
      cases written_ok written
      exact ofData_entered checks .avc1 (fun _ _ => rfl)
        (SampleEntry.demux_reads (VisualSampleEntry.demux_reads _)) inside (collectAvc1_parts fits)
  | clap box => exact ofData_checked checks nested .clap (fun _ _ => rfl) rfl fits written inside
  | pasp box => exact ofData_checked checks nested .pasp (fun _ _ => rfl) rfl fits written inside
  | avcC box => exact ofData_checked checks nested .avcC (fun _ _ => rfl) rfl fits written inside
  | btrt box => exact ofData_checked checks nested .btrt (fun _ _ => rfl) rfl fits written inside
  | mp4a box =>
      cases written_ok written
      exact ofData_entered checks .mp4a (fun _ _ => rfl)
        (SampleEntry.demux_reads (AudioSampleEntry.demux_reads fits.2)) inside
        (collectMp4a_parts fits.1)
  | esds box => exact ofData_checked checks nested .esds (fun _ _ => rfl) rfl fits written inside
  | moof box =>
      cases written
      exact ofData_collected checks nested .moof (fun _ _ => rfl)
        (inside.parse IoFault.unfinished) (collectMoof_parts fits)
  | mfhd box => exact ofData_checked checks nested .mfhd (fun _ _ => rfl) rfl fits written inside
  | traf box =>
      cases written
      exact ofData_collected checks nested .traf (fun _ _ => rfl)
        (inside.parse IoFault.unfinished) (collectTraf_parts fits)
  | tfhd box => exact ofData_checked checks nested .tfhd (fun _ _ => rfl) rfl fits written inside
  | tfdt box => exact ofData_checked checks nested .tfdt (fun _ _ => rfl) rfl fits written inside
  | trun box => exact ofData_checked checks nested .trun (fun _ _ => rfl) rfl fits written inside
  | mdat box => exact ofData_checked checks nested .mdat (fun _ _ => rfl) rfl fits written inside
  | av01 box =>
      cases written_ok written
      exact ofData_entered checks .av01 (fun _ _ => rfl)
        (SampleEntry.demux_reads (VisualSampleEntry.demux_reads _)) inside (collectAv01_parts fits)
  | av1C box => exact ofData_checked checks nested .av1C (fun _ _ => rfl) rfl fits written inside
  | colr box => exact ofData_checked checks nested .colr (fun _ _ => rfl) rfl fits written inside
  | hev1 box =>
      cases written_ok written
      exact ofData_entered checks .hev1 (fun _ _ => rfl)
        (SampleEntry.demux_reads (VisualSampleEntry.demux_reads _)) inside (collectHev1_parts fits)
  | hvcC box => exact ofData_checked checks nested .hvcC (fun _ _ => rfl) rfl fits written inside
  | opus box =>
      cases written_ok written
      exact ofData_entered checks .opus (fun _ _ => rfl)
        (SampleEntry.demux_reads (AudioSampleEntry.demux_reads fits.2)) inside
        (collectOpus_parts fits.1)
  | unknown header data =>
      cases written
      cases inside
      rw [List.append_nil, typeName, ofData, show BoxKind.ofName header.boxType = none from fits]

end OneBox

/-! ## Trees -/

/-- Every box of a tree fits, and none overstates its size. -/
def Recoverable (box : DynBox) : Prop := ∀ inner, Nested box inner → Fits inner ∧ ¬Overstated inner

theorem Recoverable.honest {box : DynBox} (recoverable : Recoverable box) : Honest box :=
  fun inner nested => (recoverable inner nested).2

theorem Recoverable.part {box inner : DynBox} (recoverable : Recoverable box)
    (inside : inner ∈ parts box) : Recoverable inner :=
  fun deeper nested => recoverable deeper (.part inside nested)

theorem recoverable_iff (box : DynBox) :
    Recoverable box ↔ (Fits box ∧ ¬Overstated box) ∧ ∀ inner ∈ parts box, Recoverable inner :=
  everywhere_iff box

theorem recoverable_leaf {box : DynBox} (leaf : parts box = []) (fits : Fits box)
    (honest : ¬Overstated box) : Recoverable box :=
  everywhere_leaf leaf ⟨fits, honest⟩

/-- The bytes of a box are its payload in a frame: its own part and then the boxes inside it. -/
theorem mux_frame {box : DynBox} {bytes : Bytes} (honest : Honest box)
    (written : mux box = .ok bytes) (short : size box ≤ u32Max) :
    ∃ own rest, ownMux box = .ok own ∧ muxAll (parts box) = .ok rest ∧
      bytes = frame (typeName box) (own ++ rest) := by
  obtain ⟨name, equation⟩ := mux_eq box short
  have length := (length_mux box written short).2.mpr honest
  obtain ⟨payload, named⟩ := mux_named box written short
  rw [equation] at written
  obtain ⟨own, ownWritten, more⟩ := sequence_eq_ok_iff.mp written
  obtain ⟨rest, restWritten, same⟩ := sequence_eq_ok_iff.mp more
  cases same
  rw [List.append_assoc] at named
  obtain ⟨header, rfl⟩ := List.append_inj named (by rw [length_boxHeader, length_boxHeader])
  have measured : boxSize (own ++ rest).length = size box := by
    rw [List.append_assoc, List.length_append, length_boxHeader,
      if_neg (Nat.not_lt.mpr short)] at length
    rw [← length, Nat.add_comm]
    exact if_neg (by omega)
  refine ⟨own, rest, ownWritten, restWritten, ?_⟩
  rw [frame, measured, ← header, List.append_assoc]

theorem ne_nil_of_mux {box : DynBox} {bytes : Bytes} (written : mux box = .ok bytes)
    (short : size box ≤ u32Max) : bytes ≠ [] := by
  obtain ⟨payload, rfl⟩ := mux_named box written short
  intro empty
  have length := congrArg List.length empty
  rw [List.length_append, length_boxHeader, if_neg (Nat.not_lt.mpr short), List.length_nil]
    at length
  omega

/-- Boxes written one after the other are read one after the other. -/
theorem readsAll_of_muxAll {reader : Reader IoFault DynBox} {boxes : List DynBox} {bytes : Bytes}
    (written : muxAll boxes = .ok bytes) (short : ∀ box ∈ boxes, size box ≤ u32Max)
    (each : ∀ box ∈ boxes, ∀ inner, mux box = .ok inner → inner.length ≤ bytes.length →
      Reads reader inner box) :
    ReadsAll reader boxes bytes := by
  induction boxes generalizing bytes with
  | nil =>
      cases written
      exact .nil
  | cons box boxes ih =>
      rw [muxAll] at written
      obtain ⟨first, firstWritten, more⟩ := sequence_eq_ok_iff.mp written
      obtain ⟨rest, restWritten, same⟩ := sequence_eq_ok_iff.mp more
      cases same
      obtain ⟨boxShort, othersShort⟩ := List.forall_mem_cons.mp short
      refine .cons ?_ (ne_nil_of_mux firstWritten boxShort) (ih restWritten othersShort ?_)
      · exact each box List.mem_cons_self first firstWritten (by simp)
      · intro other member inner innerWritten fits
        refine each other (List.mem_cons_of_mem _ member) inner innerWritten ?_
        rw [List.length_append]
        omega

/-- A tree is read back at any depth that its bytes leave room for. -/
theorem demuxWithin_reads (checks : OverflowChecks) {depth : Nat} {box : DynBox} {bytes : Bytes}
    (recoverable : Recoverable box) (written : mux box = .ok bytes) (short : size box ≤ u32Max)
    (deep : bytes.length ≤ depth) : Reads (demuxWithin checks depth) bytes box := by
  induction depth generalizing box bytes with
  | zero =>
      have empty := List.eq_nil_of_length_eq_zero (Nat.eq_zero_of_le_zero deep)
      exact absurd empty (ne_nil_of_mux written short)
  | succ depth ih =>
      have length := (length_mux box written short).1
      obtain ⟨own, rest, ownWritten, restWritten, rfl⟩ := mux_frame recoverable.honest written short
      have longer : (own ++ rest).length + 8 ≤ (frame (typeName box) (own ++ rest)).length := by
        rw [length_frame]
        unfold boxSize
        split <;> omega
      have inside : ReadsAll (demuxWithin checks depth) (parts box) rest := by
        refine readsAll_of_muxAll restWritten (fun inner member => ?_)
          fun inner member innerBytes innerWritten fits => ?_
        · exact Nat.le_of_lt (Nat.lt_of_lt_of_le (size_lt_of_mem_parts member) short)
        · have smaller := size_lt_of_mem_parts member
          rw [List.length_append] at longer
          exact ih (recoverable.part member) innerWritten (by omega) (by omega)
      have fits := (recoverable box .self).1
      apply demuxWithin_frame checks
      · unfold u32Max at short
        omega
      · exact ofData_parts checks fits ownWritten inside

/-- A tree of boxes that fit comes back from its bytes, whatever stands around them. -/
theorem demux_mux (checks : OverflowChecks) {box : DynBox} {bytes : Bytes}
    (recoverable : Recoverable box) (written : mux box = .ok bytes) (short : size box ≤ u32Max) :
    Reads (demux checks) bytes box := by
  intro before after
  have room : bytes.length ≤ (before ++ bytes ++ after).length + 1 := by
    simp only [List.length_append]
    omega
  exact demuxWithin_reads checks recoverable written short room before after

theorem muxAll_reads (checks : OverflowChecks) {boxes : List DynBox} {bytes : Bytes}
    (recoverable : ∀ box ∈ boxes, Recoverable box) (short : ∀ box ∈ boxes, size box ≤ u32Max)
    (written : muxAll boxes = .ok bytes) : ReadsAll (demux checks) boxes bytes :=
  readsAll_of_muxAll written short fun box member _ innerWritten _ =>
    demux_mux checks (recoverable box member) innerWritten (short box member)

/-- A file of trees of boxes that fit comes back from its bytes. -/
theorem demuxAll_muxAll (checks : OverflowChecks) {boxes : List DynBox} {bytes : Bytes}
    (recoverable : ∀ box ∈ boxes, Recoverable box) (short : ∀ box ∈ boxes, size box ≤ u32Max)
    (written : muxAll boxes = .ok bytes) : demuxAll checks bytes = .ok boxes :=
  demuxAll_eq_ok (muxAll_reads checks recoverable short written)

theorem demuxAll_muxAll_mvex :
    demuxAll .on [0, 0, 0, 34, 109, 118, 101, 120, 0, 0, 0, 16, 109, 101, 104, 100, 0, 0, 0, 0,
      0, 0, 0, 7, 0, 0, 0, 10, 102, 114, 101, 101, 1, 2] =
      .ok [.mvex ⟨⟨Mvex.name⟩, [], some ⟨⟨⟨Mehd.name⟩, 0, 0⟩, 7⟩,
        [.unknown ⟨⟨102, 114, 101, 101⟩⟩ [1, 2]]⟩] := by
  have apart : Apart [.trex, .mehd] [.unknown ⟨⟨102, 114, 101, 101⟩⟩ [1, 2]] := by
    rintro _ (_ | ⟨_, ⟨⟩⟩) kind _ typed
    cases typed
  refine demuxAll_muxAll .on (List.forall_mem_singleton.mpr ((recoverable_iff _).mpr ?_))
    (by decide) rfl
  refine ⟨⟨⟨rfl, apart⟩, id⟩, List.forall_mem_cons.mpr ⟨?_, List.forall_mem_singleton.mpr ?_⟩⟩
  · exact recoverable_leaf rfl rfl id
  · exact recoverable_leaf rfl rfl id

end DynBox

end ScuffleVideo.Mp4
