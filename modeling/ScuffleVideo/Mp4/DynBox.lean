import ScuffleVideo.Mp4.Containers
import ScuffleVideo.Mp4.MovieFragment

/-!
# Boxes of any type

A box is of one of the types of a table, or unknown and kept with its payload
unread.  The containers among the types hold boxes in turn, so sizes, writing
and reading go through all of them together.  A container reads boxes until its
payload ends, or as many as it announces, and then sorts them by type.
-/

namespace ScuffleVideo.Mp4

open Wire Wire.Reader

/-! ## Types -/

inductive BoxKind where
  | ftyp
  | moov
  | mvhd
  | mvex
  | trak
  | trex
  | mehd
  | mdia
  | tkhd
  | edts
  | elst
  | mdhd
  | minf
  | hdlr
  | dinf
  | stbl
  | hmhd
  | nmhd
  | smhd
  | vmhd
  | dref
  | stsd
  | stsz
  | stsc
  | stco
  | co64
  | stts
  | stss
  | stz2
  | stsh
  | ctts
  | stdp
  | sbgp
  | subs
  | padb
  | sdtp
  | url
  | avc1
  | clap
  | pasp
  | avcC
  | btrt
  | mp4a
  | esds
  | moof
  | mfhd
  | traf
  | tfhd
  | tfdt
  | trun
  | mdat
  | av01
  | av1C
  | colr
  | hev1
  | hvcC
  | opus
  deriving DecidableEq, Repr

namespace BoxKind

/-- The types in the order in which a header is compared with them. -/
def all : List BoxKind :=
  [.ftyp, .moov, .mvhd, .mvex, .trak, .trex, .mehd, .mdia, .tkhd, .edts, .elst, .mdhd, .minf,
    .hdlr, .dinf, .stbl, .hmhd, .nmhd, .smhd, .vmhd, .dref, .stsd, .stsz, .stsc, .stco, .co64,
    .stts, .stss, .stz2, .stsh, .ctts, .stdp, .sbgp, .subs, .padb, .sdtp, .url, .avc1, .clap,
    .pasp, .avcC, .btrt, .mp4a, .esds, .moof, .mfhd, .traf, .tfhd, .tfdt, .trun, .mdat, .av01,
    .av1C, .colr, .hev1, .hvcC, .opus]

def name : BoxKind → FourCC
  | .ftyp => Ftyp.name
  | .moov => Moov.name
  | .mvhd => Mvhd.name
  | .mvex => Mvex.name
  | .trak => Trak.name
  | .trex => Trex.name
  | .mehd => Mehd.name
  | .mdia => Mdia.name
  | .tkhd => Tkhd.name
  | .edts => Edts.name
  | .elst => Elst.name
  | .mdhd => Mdhd.name
  | .minf => Minf.name
  | .hdlr => Hdlr.fourCC
  | .dinf => Dinf.name
  | .stbl => Stbl.name
  | .hmhd => Hmhd.name
  | .nmhd => Nmhd.name
  | .smhd => Smhd.name
  | .vmhd => Vmhd.name
  | .dref => Dref.name
  | .stsd => Stsd.name
  | .stsz => Stsz.name
  | .stsc => Stsc.name
  | .stco => Stco.name
  | .co64 => Co64.name
  | .stts => Stts.name
  | .stss => Stss.name
  | .stz2 => Stz2.name
  | .stsh => Stsh.name
  | .ctts => Ctts.name
  | .stdp => Stdp.name
  | .sbgp => Sbgp.name
  | .subs => Subs.name
  | .padb => Padb.name
  | .sdtp => Sdtp.name
  | .url => Url.name
  | .avc1 => Avc1.name
  | .clap => Clap.name
  | .pasp => Pasp.name
  | .avcC => AvcC.name
  | .btrt => Btrt.name
  | .mp4a => Mp4a.name
  | .esds => Esds.name
  | .moof => Moof.name
  | .mfhd => Mfhd.name
  | .traf => Traf.name
  | .tfhd => Tfhd.name
  | .tfdt => Tfdt.name
  | .trun => Trun.name
  | .mdat => Mdat.name
  | .av01 => Av01.name
  | .av1C => Av1C.name
  | .colr => Colr.name
  | .hev1 => Hev1.name
  | .hvcC => HvcC.name
  | .opus => Opus.name

def ofName (name : FourCC) : Option BoxKind := all.find? fun kind => kind.name == name

theorem ofName_name (kind : BoxKind) : ofName kind.name = some kind := by
  cases kind <;> rfl

theorem name_of_ofName {name : FourCC} {kind : BoxKind} (found : ofName name = some kind) :
    kind.name = name := by
  unfold ofName at found
  have equal := List.find?_some found
  exact eq_of_beq equal

end BoxKind

inductive DynBox where
  | ftyp (box : Ftyp)
  | moov (box : Moov DynBox)
  | mvhd (box : Mvhd)
  | mvex (box : Mvex DynBox)
  | trak (box : Trak DynBox)
  | trex (box : Trex)
  | mehd (box : Mehd)
  | mdia (box : Mdia DynBox)
  | tkhd (box : Tkhd)
  | edts (box : Edts DynBox)
  | elst (box : Elst)
  | mdhd (box : Mdhd)
  | minf (box : Minf DynBox)
  | hdlr (box : Hdlr)
  | dinf (box : Dinf DynBox)
  | stbl (box : Stbl DynBox)
  | hmhd (box : Hmhd)
  | nmhd (box : Nmhd)
  | smhd (box : Smhd)
  | vmhd (box : Vmhd)
  | dref (box : Dref DynBox)
  | stsd (box : Stsd DynBox)
  | stsz (box : Stsz)
  | stsc (box : Stsc)
  | stco (box : Stco)
  | co64 (box : Co64)
  | stts (box : Stts)
  | stss (box : Stss)
  | stz2 (box : Stz2)
  | stsh (box : Stsh)
  | ctts (box : Ctts)
  | stdp (box : Stdp)
  | sbgp (box : Sbgp)
  | subs (box : Subs)
  | padb (box : Padb)
  | sdtp (box : Sdtp)
  | url (box : Url)
  | avc1 (box : Avc1 DynBox)
  | clap (box : Clap)
  | pasp (box : Pasp)
  | avcC (box : AvcC)
  | btrt (box : Btrt)
  | mp4a (box : Mp4a DynBox)
  | esds (box : Esds)
  | moof (box : Moof DynBox)
  | mfhd (box : Mfhd)
  | traf (box : Traf DynBox)
  | tfhd (box : Tfhd)
  | tfdt (box : Tfdt)
  | trun (box : Trun)
  | mdat (box : Mdat)
  | av01 (box : Av01 DynBox)
  | av1C (box : Av1C)
  | colr (box : Colr)
  | hev1 (box : Hev1 DynBox)
  | hvcC (box : HvcC)
  | opus (box : Opus DynBox)
  | unknown (header : BoxHeader) (data : Bytes)

namespace DynBox

def kind : DynBox → Option BoxKind
  | .ftyp _ => some .ftyp
  | .moov _ => some .moov
  | .mvhd _ => some .mvhd
  | .mvex _ => some .mvex
  | .trak _ => some .trak
  | .trex _ => some .trex
  | .mehd _ => some .mehd
  | .mdia _ => some .mdia
  | .tkhd _ => some .tkhd
  | .edts _ => some .edts
  | .elst _ => some .elst
  | .mdhd _ => some .mdhd
  | .minf _ => some .minf
  | .hdlr _ => some .hdlr
  | .dinf _ => some .dinf
  | .stbl _ => some .stbl
  | .hmhd _ => some .hmhd
  | .nmhd _ => some .nmhd
  | .smhd _ => some .smhd
  | .vmhd _ => some .vmhd
  | .dref _ => some .dref
  | .stsd _ => some .stsd
  | .stsz _ => some .stsz
  | .stsc _ => some .stsc
  | .stco _ => some .stco
  | .co64 _ => some .co64
  | .stts _ => some .stts
  | .stss _ => some .stss
  | .stz2 _ => some .stz2
  | .stsh _ => some .stsh
  | .ctts _ => some .ctts
  | .stdp _ => some .stdp
  | .sbgp _ => some .sbgp
  | .subs _ => some .subs
  | .padb _ => some .padb
  | .sdtp _ => some .sdtp
  | .url _ => some .url
  | .avc1 _ => some .avc1
  | .clap _ => some .clap
  | .pasp _ => some .pasp
  | .avcC _ => some .avcC
  | .btrt _ => some .btrt
  | .mp4a _ => some .mp4a
  | .esds _ => some .esds
  | .moof _ => some .moof
  | .mfhd _ => some .mfhd
  | .traf _ => some .traf
  | .tfhd _ => some .tfhd
  | .tfdt _ => some .tfdt
  | .trun _ => some .trun
  | .mdat _ => some .mdat
  | .av01 _ => some .av01
  | .av1C _ => some .av1C
  | .colr _ => some .colr
  | .hev1 _ => some .hev1
  | .hvcC _ => some .hvcC
  | .opus _ => some .opus
  | .unknown _ _ => none

/-! ## Sizes -/

def sizeList {β : Type} [BoxType β] (boxes : List β) : Nat := (boxes.map BoxType.size).sum

mutual

def size : DynBox → Nat
  | .ftyp box => BoxType.size box
  | .moov box => boxSize (primitiveSizeMoov box)
  | .mvhd box => BoxType.size box
  | .mvex box => boxSize (primitiveSizeMvex box)
  | .trak box => boxSize (primitiveSizeTrak box)
  | .trex box => BoxType.size box
  | .mehd box => BoxType.size box
  | .mdia box => boxSize (primitiveSizeMdia box)
  | .tkhd box => BoxType.size box
  | .edts box => boxSize (primitiveSizeEdts box)
  | .elst box => BoxType.size box
  | .mdhd box => BoxType.size box
  | .minf box => boxSize (primitiveSizeMinf box)
  | .hdlr box => BoxType.size box
  | .dinf box => boxSize (primitiveSizeDinf box)
  | .stbl box => boxSize (primitiveSizeStbl box)
  | .hmhd box => BoxType.size box
  | .nmhd box => BoxType.size box
  | .smhd box => BoxType.size box
  | .vmhd box => BoxType.size box
  | .dref box => boxSize (primitiveSizeDref box)
  | .stsd box => boxSize (primitiveSizeStsd box)
  | .stsz box => BoxType.size box
  | .stsc box => BoxType.size box
  | .stco box => BoxType.size box
  | .co64 box => BoxType.size box
  | .stts box => BoxType.size box
  | .stss box => BoxType.size box
  | .stz2 box => BoxType.size box
  | .stsh box => BoxType.size box
  | .ctts box => BoxType.size box
  | .stdp box => BoxType.size box
  | .sbgp box => BoxType.size box
  | .subs box => BoxType.size box
  | .padb box => BoxType.size box
  | .sdtp box => BoxType.size box
  | .url box => BoxType.size box
  | .avc1 box => boxSize (primitiveSizeAvc1 box)
  | .clap box => BoxType.size box
  | .pasp box => BoxType.size box
  | .avcC box => BoxType.size box
  | .btrt box => BoxType.size box
  | .mp4a box => boxSize (primitiveSizeMp4a box)
  | .esds box => BoxType.size box
  | .moof box => boxSize (primitiveSizeMoof box)
  | .mfhd box => BoxType.size box
  | .traf box => boxSize (primitiveSizeTraf box)
  | .tfhd box => BoxType.size box
  | .tfdt box => BoxType.size box
  | .trun box => BoxType.size box
  | .mdat box => BoxType.size box
  | .av01 box => boxSize (primitiveSizeAv01 box)
  | .av1C box => BoxType.size box
  | .colr box => BoxType.size box
  | .hev1 box => boxSize (primitiveSizeHev1 box)
  | .hvcC box => BoxType.size box
  | .opus box => boxSize (primitiveSizeOpus box)
  | .unknown _ data => boxSize data.length

def primitiveSizeMoov : Moov DynBox → Nat
  | ⟨_, mvhdBox, trakBoxes, mvexBox, others⟩ =>
      BoxType.size mvhdBox + sizeTraks trakBoxes + sizeMvexOption mvexBox + sizes others

def primitiveSizeMvex : Mvex DynBox → Nat
  | ⟨_, trexBoxes, mehdBox, others⟩ =>
      sizeList trexBoxes + sizeOption mehdBox + sizes others

def primitiveSizeTrak : Trak DynBox → Nat
  | ⟨_, tkhdBox, edtsBox, mdiaBox, others⟩ =>
      BoxType.size tkhdBox + sizeEdtsOption edtsBox + boxSize (primitiveSizeMdia mdiaBox) +
        sizes others

def primitiveSizeMdia : Mdia DynBox → Nat
  | ⟨_, mdhdBox, hdlrBox, minfBox, others⟩ =>
      BoxType.size mdhdBox + BoxType.size hdlrBox + boxSize (primitiveSizeMinf minfBox) +
        sizes others

def primitiveSizeEdts : Edts DynBox → Nat
  | ⟨_, elstBox, others⟩ =>
      sizeOption elstBox + sizes others

def primitiveSizeMinf : Minf DynBox → Nat
  | ⟨_, vmhdBox, smhdBox, hmhdBox, nmhdBox, dinfBox, stblBox, others⟩ =>
      sizeOption vmhdBox + sizeOption smhdBox + sizeOption hmhdBox + sizeOption nmhdBox +
        boxSize (primitiveSizeDinf dinfBox) + boxSize (primitiveSizeStbl stblBox) + sizes others

def primitiveSizeDinf : Dinf DynBox → Nat
  | ⟨_, drefBox, others⟩ =>
      boxSize (primitiveSizeDref drefBox) + sizes others

def primitiveSizeStbl : Stbl DynBox → Nat
  | ⟨_, stsdBox, sttsBox, cttsBox, stscBox, stszBox, stz2Box, stcoBox, co64Box, stssBox, stshBox,
      padbBox, stdpBox, sdtpBox, sbgpBox, subsBox, others⟩ =>
      boxSize (primitiveSizeStsd stsdBox) + BoxType.size sttsBox + sizeOption cttsBox +
        BoxType.size stscBox + sizeOption stszBox + sizeOption stz2Box + BoxType.size stcoBox +
        sizeOption co64Box + sizeOption stssBox + sizeOption stshBox + sizeOption padbBox +
        sizeOption stdpBox + sizeOption sdtpBox + sizeOption sbgpBox + sizeOption subsBox +
        sizes others

def primitiveSizeDref : Dref DynBox → Nat
  | ⟨header, entries⟩ => header.size + 4 + sizes entries

def primitiveSizeStsd : Stsd DynBox → Nat
  | ⟨header, entries⟩ => header.size + 4 + sizes entries

def primitiveSizeAvc1 : Avc1 DynBox → Nat
  | ⟨_, entry, avccBox, btrtBox, others⟩ =>
      entry.size + BoxType.size avccBox + sizeOption btrtBox + sizes others

def primitiveSizeAv01 : Av01 DynBox → Nat
  | ⟨_, entry, av1cBox, btrtBox, others⟩ =>
      entry.size + BoxType.size av1cBox + sizeOption btrtBox + sizes others

def primitiveSizeHev1 : Hev1 DynBox → Nat
  | ⟨_, entry, hvccBox, btrtBox, others⟩ =>
      entry.size + BoxType.size hvccBox + sizeOption btrtBox + sizes others

def primitiveSizeMp4a : Mp4a DynBox → Nat
  | ⟨_, entry, esdsBox, btrtBox, others⟩ =>
      entry.size + sizeOption btrtBox + BoxType.size esdsBox + sizes others

def primitiveSizeOpus : Opus DynBox → Nat
  | ⟨_, entry, btrtBox, others⟩ => entry.size + sizeOption btrtBox + sizes others

def primitiveSizeMoof : Moof DynBox → Nat
  | ⟨_, mfhdBox, trafs, others⟩ => BoxType.size mfhdBox + sizeTrafs trafs + sizes others

def primitiveSizeTraf : Traf DynBox → Nat
  | ⟨_, tfhdBox, trunBox, sbgpBox, subsBox, tfdtBox, others⟩ =>
      BoxType.size tfhdBox + sizeOption trunBox + sizeOption sbgpBox + sizeOption subsBox +
        sizeOption tfdtBox + sizes others

def sizeTraks : List (Trak DynBox) → Nat
  | [] => 0
  | box :: boxes => boxSize (primitiveSizeTrak box) + sizeTraks boxes

def sizeMvexOption : Option (Mvex DynBox) → Nat
  | none => 0
  | some box => boxSize (primitiveSizeMvex box)

def sizeEdtsOption : Option (Edts DynBox) → Nat
  | none => 0
  | some box => boxSize (primitiveSizeEdts box)

def sizeTrafs : List (Traf DynBox) → Nat
  | [] => 0
  | box :: boxes => boxSize (primitiveSizeTraf box) + sizeTrafs boxes

def sizes : List DynBox → Nat
  | [] => 0
  | box :: boxes => size box + sizes boxes

end

/-! ## Writing -/

def muxList {β : Type} [BoxType β] : List β → Except IoFault Bytes
  | [] => .ok []
  | box :: boxes => do
      let first ← BoxType.mux box
      let rest ← muxList boxes
      return first ++ rest

/-- A payload behind the header of its box. -/
def headed (name : FourCC) (primitiveSize : Nat) (payload : Except IoFault Bytes) :
    Except IoFault Bytes := do
  let payload ← payload
  return boxHeader name (boxSize primitiveSize) ++ payload

mutual

/-- An unknown box is written with the short size in both header forms. -/
def mux : DynBox → Except IoFault Bytes
  | .ftyp box => BoxType.mux box
  | .moov box => headed Moov.name (primitiveSizeMoov box) (primitiveMuxMoov box)
  | .mvhd box => BoxType.mux box
  | .mvex box => headed Mvex.name (primitiveSizeMvex box) (primitiveMuxMvex box)
  | .trak box => headed Trak.name (primitiveSizeTrak box) (primitiveMuxTrak box)
  | .trex box => BoxType.mux box
  | .mehd box => BoxType.mux box
  | .mdia box => headed Mdia.name (primitiveSizeMdia box) (primitiveMuxMdia box)
  | .tkhd box => BoxType.mux box
  | .edts box => headed Edts.name (primitiveSizeEdts box) (primitiveMuxEdts box)
  | .elst box => BoxType.mux box
  | .mdhd box => BoxType.mux box
  | .minf box => headed Minf.name (primitiveSizeMinf box) (primitiveMuxMinf box)
  | .hdlr box => BoxType.mux box
  | .dinf box => headed Dinf.name (primitiveSizeDinf box) (primitiveMuxDinf box)
  | .stbl box => headed Stbl.name (primitiveSizeStbl box) (primitiveMuxStbl box)
  | .hmhd box => BoxType.mux box
  | .nmhd box => BoxType.mux box
  | .smhd box => BoxType.mux box
  | .vmhd box => BoxType.mux box
  | .dref box => do
      box.validate
      headed Dref.name (primitiveSizeDref box) (primitiveMuxDref box)
  | .stsd box => do
      box.validate
      headed Stsd.name (primitiveSizeStsd box) (primitiveMuxStsd box)
  | .stsz box => BoxType.mux box
  | .stsc box => BoxType.mux box
  | .stco box => BoxType.mux box
  | .co64 box => BoxType.mux box
  | .stts box => BoxType.mux box
  | .stss box => BoxType.mux box
  | .stz2 box => BoxType.mux box
  | .stsh box => BoxType.mux box
  | .ctts box => BoxType.mux box
  | .stdp box => BoxType.mux box
  | .sbgp box => BoxType.mux box
  | .subs box => BoxType.mux box
  | .padb box => BoxType.mux box
  | .sdtp box => BoxType.mux box
  | .url box => BoxType.mux box
  | .avc1 box => headed Avc1.name (primitiveSizeAvc1 box) (primitiveMuxAvc1 box)
  | .clap box => BoxType.mux box
  | .pasp box => BoxType.mux box
  | .avcC box => BoxType.mux box
  | .btrt box => BoxType.mux box
  | .mp4a box => headed Mp4a.name (primitiveSizeMp4a box) (primitiveMuxMp4a box)
  | .esds box => BoxType.mux box
  | .moof box => do
      let payload ← primitiveMuxMoof box
      return boxHeader Moof.name (boxSize (primitiveSizeMoof box)) ++ payload
  | .mfhd box => BoxType.mux box
  | .traf box => do
      let payload ← primitiveMuxTraf box
      return boxHeader Traf.name (boxSize (primitiveSizeTraf box)) ++ payload
  | .tfhd box => BoxType.mux box
  | .tfdt box => BoxType.mux box
  | .trun box => BoxType.mux box
  | .mdat box => BoxType.mux box
  | .av01 box => headed Av01.name (primitiveSizeAv01 box) (primitiveMuxAv01 box)
  | .av1C box => BoxType.mux box
  | .colr box => BoxType.mux box
  | .hev1 box => headed Hev1.name (primitiveSizeHev1 box) (primitiveMuxHev1 box)
  | .hvcC box => BoxType.mux box
  | .opus box => headed Opus.name (primitiveSizeOpus box) (primitiveMuxOpus box)
  | .unknown header data => .ok (boxHeader header.boxType (data.length + 8) ++ data)

def primitiveMuxMoov : Moov DynBox → Except IoFault Bytes
  | ⟨_, mvhdBox, trakBoxes, mvexBox, others⟩ => do
      let mvhdBytes ← BoxType.mux mvhdBox
      let trakBytes ← muxTraks trakBoxes
      let mvexBytes ← muxMvexOption mvexBox
      let rest ← muxAll others
      return mvhdBytes ++ trakBytes ++ mvexBytes ++ rest

def primitiveMuxMvex : Mvex DynBox → Except IoFault Bytes
  | ⟨_, trexBoxes, mehdBox, others⟩ => do
      let trexBytes ← muxList trexBoxes
      let mehdBytes ← muxOption mehdBox
      let rest ← muxAll others
      return trexBytes ++ mehdBytes ++ rest

def primitiveMuxTrak : Trak DynBox → Except IoFault Bytes
  | ⟨_, tkhdBox, edtsBox, mdiaBox, others⟩ => do
      let tkhdBytes ← BoxType.mux tkhdBox
      let edtsBytes ← muxEdtsOption edtsBox
      let mdiaBytes ← headed Mdia.name (primitiveSizeMdia mdiaBox) (primitiveMuxMdia mdiaBox)
      let rest ← muxAll others
      return tkhdBytes ++ edtsBytes ++ mdiaBytes ++ rest

def primitiveMuxMdia : Mdia DynBox → Except IoFault Bytes
  | ⟨_, mdhdBox, hdlrBox, minfBox, others⟩ => do
      let mdhdBytes ← BoxType.mux mdhdBox
      let hdlrBytes ← BoxType.mux hdlrBox
      let minfBytes ← headed Minf.name (primitiveSizeMinf minfBox) (primitiveMuxMinf minfBox)
      let rest ← muxAll others
      return mdhdBytes ++ hdlrBytes ++ minfBytes ++ rest

def primitiveMuxEdts : Edts DynBox → Except IoFault Bytes
  | ⟨_, elstBox, others⟩ => do
      let elstBytes ← muxOption elstBox
      let rest ← muxAll others
      return elstBytes ++ rest

def primitiveMuxMinf : Minf DynBox → Except IoFault Bytes
  | ⟨_, vmhdBox, smhdBox, hmhdBox, nmhdBox, dinfBox, stblBox, others⟩ => do
      let vmhdBytes ← muxOption vmhdBox
      let smhdBytes ← muxOption smhdBox
      let hmhdBytes ← muxOption hmhdBox
      let nmhdBytes ← muxOption nmhdBox
      let dinfBytes ← headed Dinf.name (primitiveSizeDinf dinfBox) (primitiveMuxDinf dinfBox)
      let stblBytes ← headed Stbl.name (primitiveSizeStbl stblBox) (primitiveMuxStbl stblBox)
      let rest ← muxAll others
      return vmhdBytes ++ smhdBytes ++ hmhdBytes ++ nmhdBytes ++ dinfBytes ++ stblBytes ++ rest

def primitiveMuxDinf : Dinf DynBox → Except IoFault Bytes
  | ⟨_, drefBox, others⟩ => do
      drefBox.validate
      let drefBytes ← headed Dref.name (primitiveSizeDref drefBox) (primitiveMuxDref drefBox)
      let rest ← muxAll others
      return drefBytes ++ rest

def primitiveMuxStbl : Stbl DynBox → Except IoFault Bytes
  | ⟨_, stsdBox, sttsBox, cttsBox, stscBox, stszBox, stz2Box, stcoBox, co64Box, stssBox, stshBox,
      padbBox, stdpBox, sdtpBox, sbgpBox, subsBox, others⟩ => do
      stsdBox.validate
      let stsdBytes ← headed Stsd.name (primitiveSizeStsd stsdBox) (primitiveMuxStsd stsdBox)
      let sttsBytes ← BoxType.mux sttsBox
      let cttsBytes ← muxOption cttsBox
      let stscBytes ← BoxType.mux stscBox
      let stszBytes ← muxOption stszBox
      let stz2Bytes ← muxOption stz2Box
      let stcoBytes ← BoxType.mux stcoBox
      let co64Bytes ← muxOption co64Box
      let stssBytes ← muxOption stssBox
      let stshBytes ← muxOption stshBox
      let padbBytes ← muxOption padbBox
      let stdpBytes ← muxOption stdpBox
      let sdtpBytes ← muxOption sdtpBox
      let sbgpBytes ← muxOption sbgpBox
      let subsBytes ← muxOption subsBox
      let rest ← muxAll others
      return stsdBytes ++ sttsBytes ++ cttsBytes ++ stscBytes ++ stszBytes ++ stz2Bytes ++
        stcoBytes ++ co64Bytes ++ stssBytes ++ stshBytes ++ padbBytes ++ stdpBytes ++ sdtpBytes ++
        sbgpBytes ++ subsBytes ++ rest

def primitiveMuxDref : Dref DynBox → Except IoFault Bytes
  | ⟨header, entries⟩ => do
      let first ← header.mux
      let rest ← muxAll entries
      return first ++ beU32 (UInt32.ofNat entries.length) ++ rest

def primitiveMuxStsd : Stsd DynBox → Except IoFault Bytes
  | ⟨header, entries⟩ => do
      let first ← header.mux
      let rest ← muxAll entries
      return first ++ beU32 (UInt32.ofNat entries.length) ++ rest

def primitiveMuxAvc1 : Avc1 DynBox → Except IoFault Bytes
  | ⟨_, entry, avccBox, btrtBox, others⟩ => do
      let fields ← entry.mux
      let avccBytes ← BoxType.mux avccBox
      let btrtBytes ← muxOption btrtBox
      let rest ← muxAll others
      return fields ++ avccBytes ++ btrtBytes ++ rest

def primitiveMuxAv01 : Av01 DynBox → Except IoFault Bytes
  | ⟨_, entry, av1cBox, btrtBox, others⟩ => do
      let fields ← entry.mux
      let av1cBytes ← BoxType.mux av1cBox
      let btrtBytes ← muxOption btrtBox
      let rest ← muxAll others
      return fields ++ av1cBytes ++ btrtBytes ++ rest

def primitiveMuxHev1 : Hev1 DynBox → Except IoFault Bytes
  | ⟨_, entry, hvccBox, btrtBox, others⟩ => do
      let fields ← entry.mux
      let hvccBytes ← BoxType.mux hvccBox
      let btrtBytes ← muxOption btrtBox
      let rest ← muxAll others
      return fields ++ hvccBytes ++ btrtBytes ++ rest

def primitiveMuxMp4a : Mp4a DynBox → Except IoFault Bytes
  | ⟨_, entry, esdsBox, btrtBox, others⟩ => do
      let fields ← entry.mux
      let esdsBytes ← BoxType.mux esdsBox
      let btrtBytes ← muxOption btrtBox
      let rest ← muxAll others
      return fields ++ esdsBytes ++ btrtBytes ++ rest

def primitiveMuxOpus : Opus DynBox → Except IoFault Bytes
  | ⟨_, entry, btrtBox, others⟩ => do
      let fields ← entry.mux
      let btrtBytes ← muxOption btrtBox
      let rest ← muxAll others
      return fields ++ btrtBytes ++ rest

def primitiveMuxMoof : Moof DynBox → Except IoFault Bytes
  | ⟨_, mfhdBox, trafs, others⟩ => do
      let first ← BoxType.mux mfhdBox
      let fragments ← muxTrafs trafs
      let rest ← muxAll others
      return first ++ fragments ++ rest

def primitiveMuxTraf : Traf DynBox → Except IoFault Bytes
  | ⟨_, tfhdBox, trunBox, sbgpBox, subsBox, tfdtBox, others⟩ => do
      let first ← BoxType.mux tfhdBox
      let groups ← muxOption sbgpBox
      let subsamples ← muxOption subsBox
      let time ← muxOption tfdtBox
      let rest ← muxAll others
      let run ← muxOption trunBox
      return first ++ groups ++ subsamples ++ time ++ rest ++ run

def muxTraks : List (Trak DynBox) → Except IoFault Bytes
  | [] => .ok []
  | box :: boxes => do
      let first ← headed Trak.name (primitiveSizeTrak box) (primitiveMuxTrak box)
      let rest ← muxTraks boxes
      return first ++ rest

def muxMvexOption : Option (Mvex DynBox) → Except IoFault Bytes
  | none => .ok []
  | some box => headed Mvex.name (primitiveSizeMvex box) (primitiveMuxMvex box)

def muxEdtsOption : Option (Edts DynBox) → Except IoFault Bytes
  | none => .ok []
  | some box => headed Edts.name (primitiveSizeEdts box) (primitiveMuxEdts box)

def muxTrafs : List (Traf DynBox) → Except IoFault Bytes
  | [] => .ok []
  | box :: boxes => do
      let payload ← primitiveMuxTraf box
      let rest ← muxTrafs boxes
      return boxHeader Traf.name (boxSize (primitiveSizeTraf box)) ++ payload ++ rest

def muxAll : List DynBox → Except IoFault Bytes
  | [] => .ok []
  | box :: boxes => do
      let first ← mux box
      let rest ← muxAll boxes
      return first ++ rest

end

/-! ## Sorting by type -/

def asMvhd : DynBox → Option Mvhd
  | .mvhd box => some box
  | _ => none

def asTrak : DynBox → Option (Trak DynBox)
  | .trak box => some box
  | _ => none

def asMvex : DynBox → Option (Mvex DynBox)
  | .mvex box => some box
  | _ => none

def asTrex : DynBox → Option Trex
  | .trex box => some box
  | _ => none

def asMehd : DynBox → Option Mehd
  | .mehd box => some box
  | _ => none

def asTkhd : DynBox → Option Tkhd
  | .tkhd box => some box
  | _ => none

def asEdts : DynBox → Option (Edts DynBox)
  | .edts box => some box
  | _ => none

def asMdia : DynBox → Option (Mdia DynBox)
  | .mdia box => some box
  | _ => none

def asMdhd : DynBox → Option Mdhd
  | .mdhd box => some box
  | _ => none

def asHdlr : DynBox → Option Hdlr
  | .hdlr box => some box
  | _ => none

def asMinf : DynBox → Option (Minf DynBox)
  | .minf box => some box
  | _ => none

def asElst : DynBox → Option Elst
  | .elst box => some box
  | _ => none

def asVmhd : DynBox → Option Vmhd
  | .vmhd box => some box
  | _ => none

def asSmhd : DynBox → Option Smhd
  | .smhd box => some box
  | _ => none

def asHmhd : DynBox → Option Hmhd
  | .hmhd box => some box
  | _ => none

def asNmhd : DynBox → Option Nmhd
  | .nmhd box => some box
  | _ => none

def asDinf : DynBox → Option (Dinf DynBox)
  | .dinf box => some box
  | _ => none

def asStbl : DynBox → Option (Stbl DynBox)
  | .stbl box => some box
  | _ => none

def asDref : DynBox → Option (Dref DynBox)
  | .dref box => some box
  | _ => none

def asStsd : DynBox → Option (Stsd DynBox)
  | .stsd box => some box
  | _ => none

def asStts : DynBox → Option Stts
  | .stts box => some box
  | _ => none

def asCtts : DynBox → Option Ctts
  | .ctts box => some box
  | _ => none

def asStsc : DynBox → Option Stsc
  | .stsc box => some box
  | _ => none

def asStsz : DynBox → Option Stsz
  | .stsz box => some box
  | _ => none

def asStz2 : DynBox → Option Stz2
  | .stz2 box => some box
  | _ => none

def asStco : DynBox → Option Stco
  | .stco box => some box
  | _ => none

def asCo64 : DynBox → Option Co64
  | .co64 box => some box
  | _ => none

def asStss : DynBox → Option Stss
  | .stss box => some box
  | _ => none

def asStsh : DynBox → Option Stsh
  | .stsh box => some box
  | _ => none

def asPadb : DynBox → Option Padb
  | .padb box => some box
  | _ => none

def asStdp : DynBox → Option Stdp
  | .stdp box => some box
  | _ => none

def asSdtp : DynBox → Option Sdtp
  | .sdtp box => some box
  | _ => none

def asSbgp : DynBox → Option Sbgp
  | .sbgp box => some box
  | _ => none

def asSubs : DynBox → Option Subs
  | .subs box => some box
  | _ => none

def asAvcC : DynBox → Option AvcC
  | .avcC box => some box
  | _ => none

def asHvcC : DynBox → Option HvcC
  | .hvcC box => some box
  | _ => none

def asAv1C : DynBox → Option Av1C
  | .av1C box => some box
  | _ => none

def asEsds : DynBox → Option Esds
  | .esds box => some box
  | _ => none

def asBtrt : DynBox → Option Btrt
  | .btrt box => some box
  | _ => none

def asClap : DynBox → Option Clap
  | .clap box => some box
  | _ => none

def asPasp : DynBox → Option Pasp
  | .pasp box => some box
  | _ => none

def asColr : DynBox → Option Colr
  | .colr box => some box
  | _ => none

/-- The boxes of all other types. -/
def othersThan (known : List BoxKind) (boxes : List DynBox) : List DynBox :=
  boxes.filter fun box =>
    match box.kind with
    | none => true
    | some kind => !known.contains kind

def required {β : Type} (message : String) : Option β → Except IoFault β
  | none => .error (.invalidData message)
  | some box => .ok box

def collectMoov (header : BoxHeader) (boxes : List DynBox) : Except IoFault (Moov DynBox) := do
  let mvhdBox ← required "moov box is missing mvhd box" (lastOf asMvhd boxes)
  return ⟨header, mvhdBox, boxes.filterMap asTrak, lastOf asMvex boxes,
    othersThan [.mvhd, .trak, .mvex] boxes⟩

def collectMvex (header : BoxHeader) (boxes : List DynBox) : Except IoFault (Mvex DynBox) := do
  return ⟨header, boxes.filterMap asTrex, lastOf asMehd boxes, othersThan [.trex, .mehd] boxes⟩

def collectTrak (header : BoxHeader) (boxes : List DynBox) : Except IoFault (Trak DynBox) := do
  let tkhdBox ← required "trak box is missing tkhd box" (lastOf asTkhd boxes)
  let mdiaBox ← required "trak box is missing mdia box" (lastOf asMdia boxes)
  return ⟨header, tkhdBox, lastOf asEdts boxes, mdiaBox, othersThan [.tkhd, .edts, .mdia] boxes⟩

def collectMdia (header : BoxHeader) (boxes : List DynBox) : Except IoFault (Mdia DynBox) := do
  let mdhdBox ← required "mdia box is missing mdhd box" (lastOf asMdhd boxes)
  let hdlrBox ← required "mdia box is missing hdlr box" (lastOf asHdlr boxes)
  let minfBox ← required "mdia box is missing minf box" (lastOf asMinf boxes)
  return ⟨header, mdhdBox, hdlrBox, minfBox, othersThan [.mdhd, .hdlr, .minf] boxes⟩

def collectEdts (header : BoxHeader) (boxes : List DynBox) : Except IoFault (Edts DynBox) := do
  return ⟨header, lastOf asElst boxes, othersThan [.elst] boxes⟩

def collectMinf (header : BoxHeader) (boxes : List DynBox) : Except IoFault (Minf DynBox) := do
  let dinfBox ← required "minf: dinf box is required" (lastOf asDinf boxes)
  let stblBox ← required "minf: stbl box is required" (lastOf asStbl boxes)
  return ⟨header, lastOf asVmhd boxes, lastOf asSmhd boxes, lastOf asHmhd boxes,
    lastOf asNmhd boxes, dinfBox, stblBox,
    othersThan [.vmhd, .smhd, .hmhd, .nmhd, .dinf, .stbl] boxes⟩

/-- A missing reference is unwrapped all the same. -/
def collectDinf (header : BoxHeader) (boxes : List DynBox) : Except IoFault (Dinf DynBox) :=
  match lastOf asDref boxes with
  | none => .error .panic
  | some drefBox => .ok ⟨header, drefBox, othersThan [.dref] boxes⟩

def collectStbl (header : BoxHeader) (boxes : List DynBox) : Except IoFault (Stbl DynBox) := do
  let stsdBox ← required "stsd box not found in stbl box" (lastOf asStsd boxes)
  let sttsBox ← required "stts box not found in stbl box" (lastOf asStts boxes)
  let stscBox ← required "stsc box not found in stbl box" (lastOf asStsc boxes)
  let stcoBox ← required "stco box not found in stbl box" (lastOf asStco boxes)
  return ⟨header, stsdBox, sttsBox, lastOf asCtts boxes, stscBox, lastOf asStsz boxes,
    lastOf asStz2 boxes, stcoBox, lastOf asCo64 boxes, lastOf asStss boxes, lastOf asStsh boxes,
    lastOf asPadb boxes, lastOf asStdp boxes, lastOf asSdtp boxes, lastOf asSbgp boxes,
    lastOf asSubs boxes,
    othersThan [.stsd, .stts, .ctts, .stsc, .stsz, .stz2, .stco, .co64, .stss, .stsh, .padb,
      .stdp, .sdtp, .sbgp, .subs] boxes⟩

/-- The boxes among the fields of a video entry come with the others. -/
def withPicture (entry : SampleEntry VisualSampleEntry) (boxes : List DynBox) :
    SampleEntry VisualSampleEntry :=
  { entry with
    extension := { entry.extension with
      clap := (lastOf asClap boxes).or entry.extension.clap
      colr := (lastOf asColr boxes).or entry.extension.colr
      pasp := (lastOf asPasp boxes).or entry.extension.pasp } }

def collectAvc1 (header : BoxHeader) (entry : SampleEntry VisualSampleEntry)
    (boxes : List DynBox) : Except IoFault (Avc1 DynBox) := do
  let avccBox ← required "trak box is missing tkhd box" (lastOf asAvcC boxes)
  return ⟨header, withPicture entry boxes, avccBox, lastOf asBtrt boxes,
    othersThan [.avcC, .btrt, .clap, .pasp, .colr] boxes⟩

def collectHev1 (header : BoxHeader) (entry : SampleEntry VisualSampleEntry)
    (boxes : List DynBox) : Except IoFault (Hev1 DynBox) := do
  let hvccBox ← required "trak box is missing tkhd box" (lastOf asHvcC boxes)
  return ⟨header, withPicture entry boxes, hvccBox, lastOf asBtrt boxes,
    othersThan [.hvcC, .btrt, .clap, .pasp, .colr] boxes⟩

def collectAv01 (header : BoxHeader) (entry : SampleEntry VisualSampleEntry)
    (boxes : List DynBox) : Except IoFault (Av01 DynBox) := do
  let av1cBox ← required "trak box is missing tkhd box" (lastOf asAv1C boxes)
  return ⟨header, withPicture entry boxes, av1cBox, lastOf asBtrt boxes,
    othersThan [.av1C, .btrt, .clap, .pasp, .colr] boxes⟩

def collectMp4a (header : BoxHeader) (entry : SampleEntry AudioSampleEntry)
    (boxes : List DynBox) : Except IoFault (Mp4a DynBox) := do
  let esdsBox ← required "Missing esds box" (lastOf asEsds boxes)
  return ⟨header, entry, esdsBox, lastOf asBtrt boxes, othersThan [.btrt, .esds] boxes⟩

def collectOpus (header : BoxHeader) (entry : SampleEntry AudioSampleEntry)
    (boxes : List DynBox) : Except IoFault (Opus DynBox) :=
  .ok ⟨header, entry, lastOf asBtrt boxes, othersThan [.btrt] boxes⟩

/-- The boxes found so far inside a track fragment.  A later box of a known type
replaces an earlier one. -/
structure TrafParts where
  tfhd : Option Tfhd
  trun : Option Trun
  sbgp : Option Sbgp
  subs : Option Subs
  tfdt : Option Tfdt
  unknown : List DynBox

def TrafParts.add (parts : TrafParts) : DynBox → TrafParts
  | .tfhd box => { parts with tfhd := some box }
  | .trun box => { parts with trun := some box }
  | .sbgp box => { parts with sbgp := some box }
  | .subs box => { parts with subs := some box }
  | .tfdt box => { parts with tfdt := some box }
  | box => { parts with unknown := parts.unknown ++ [box] }

def collectTraf (header : BoxHeader) (boxes : List DynBox) : Except IoFault (Traf DynBox) :=
  let parts := boxes.foldl TrafParts.add ⟨none, none, none, none, none, []⟩
  match parts.tfhd with
  | none => .error (.invalidData "traf box must contain tfhd box")
  | some first =>
      .ok ⟨header, first, parts.trun, parts.sbgp, parts.subs, parts.tfdt, parts.unknown⟩

/-- The boxes found so far inside a movie fragment. -/
structure MoofParts where
  mfhd : Option Mfhd
  traf : List (Traf DynBox)
  unknown : List DynBox

def MoofParts.add (parts : MoofParts) : DynBox → MoofParts
  | .mfhd box => { parts with mfhd := some box }
  | .traf box => { parts with traf := parts.traf ++ [box] }
  | box => { parts with unknown := parts.unknown ++ [box] }

def collectMoof (header : BoxHeader) (boxes : List DynBox) : Except IoFault (Moof DynBox) :=
  let parts := boxes.foldl MoofParts.add ⟨none, [], []⟩
  match parts.mfhd with
  | none => .error (.invalidData "moof box must contain mfhd box")
  | some first => .ok ⟨header, first, parts.traf, parts.unknown⟩

/-! ## Reading -/

section Reading

variable (build : Build) (nested : Reader IoFault DynBox)

/-- Boxes until the end, sorted by a container. -/
def collected {β : Type} (collect : List DynBox → Except IoFault β) : Reader IoFault β := do
  let boxes ← untilEnd IoFault.unfinished nested
  ofExcept (collect boxes)

/-- As many boxes as announced, once there is room for them. -/
def counted {β : Type} (room : Nat → Reader IoFault Unit)
    (make : FullBoxHeader → List DynBox → β) (header : BoxHeader) : Reader IoFault β := do
  let full ← FullBoxHeader.demux header
  let entryCount ← readU32
  room entryCount.toNat
  let entries ← repeated nested entryCount.toNat
  return make full entries

/-- The fields of a sample entry, then boxes until the end. -/
def entered {Extension β : Type} [SampleEntryExtension Extension]
    (collect : SampleEntry Extension → List DynBox → Except IoFault β) :
    Reader IoFault β := do
  let entry ← SampleEntry.demux
  collected nested (collect entry)

/-- Read a payload as a box of a type. -/
def ofKind (header : BoxHeader) (data : Bytes) : BoxKind → Except IoFault DynBox
  | .ftyp => do return .ftyp (← BoxType.demux build header data)
  | .moov => do return .moov (← (collected nested (collectMoov header)).parse data)
  | .mvhd => do return .mvhd (← BoxType.demux build header data)
  | .mvex => do return .mvex (← (collected nested (collectMvex header)).parse data)
  | .trak => do return .trak (← (collected nested (collectTrak header)).parse data)
  | .trex => do return .trex (← BoxType.demux build header data)
  | .mehd => do return .mehd (← BoxType.demux build header data)
  | .mdia => do return .mdia (← (collected nested (collectMdia header)).parse data)
  | .tkhd => do return .tkhd (← BoxType.demux build header data)
  | .edts => do return .edts (← (collected nested (collectEdts header)).parse data)
  | .elst => do return .elst (← BoxType.demux build header data)
  | .mdhd => do return .mdhd (← BoxType.demux build header data)
  | .minf => do return .minf (← (collected nested (collectMinf header)).parse data)
  | .hdlr => do return .hdlr (← BoxType.demux build header data)
  | .dinf => do return .dinf (← (collected nested (collectDinf header)).parse data)
  | .stbl => do return .stbl (← (collected nested (collectStbl header)).parse data)
  | .hmhd => do return .hmhd (← BoxType.demux build header data)
  | .nmhd => do return .nmhd (← BoxType.demux build header data)
  | .smhd => do return .smhd (← BoxType.demux build header data)
  | .vmhd => do return .vmhd (← BoxType.demux build header data)
  | .dref => do return .dref (← (counted nested (fun _ => pure ()) Dref.mk header).parse data)
  | .stsd => do
      return .stsd (← (counted nested (allocate build.memory header.boxType) Stsd.mk header).parse
        data)
  | .stsz => do return .stsz (← BoxType.demux build header data)
  | .stsc => do return .stsc (← BoxType.demux build header data)
  | .stco => do return .stco (← BoxType.demux build header data)
  | .co64 => do return .co64 (← BoxType.demux build header data)
  | .stts => do return .stts (← BoxType.demux build header data)
  | .stss => do return .stss (← BoxType.demux build header data)
  | .stz2 => do return .stz2 (← BoxType.demux build header data)
  | .stsh => do return .stsh (← BoxType.demux build header data)
  | .ctts => do return .ctts (← BoxType.demux build header data)
  | .stdp => do return .stdp (← BoxType.demux build header data)
  | .sbgp => do return .sbgp (← BoxType.demux build header data)
  | .subs => do return .subs (← BoxType.demux build header data)
  | .padb => do return .padb (← BoxType.demux build header data)
  | .sdtp => do return .sdtp (← BoxType.demux build header data)
  | .url => do return .url (← BoxType.demux build header data)
  | .avc1 => do return .avc1 (← (entered nested (collectAvc1 header)).parse data)
  | .clap => do return .clap (← BoxType.demux build header data)
  | .pasp => do return .pasp (← BoxType.demux build header data)
  | .avcC => do return .avcC (← BoxType.demux build header data)
  | .btrt => do return .btrt (← BoxType.demux build header data)
  | .mp4a => do return .mp4a (← (entered nested (collectMp4a header)).parse data)
  | .esds => do return .esds (← BoxType.demux build header data)
  | .moof => do return .moof (← (collected nested (collectMoof header)).parse data)
  | .mfhd => do return .mfhd (← BoxType.demux build header data)
  | .traf => do return .traf (← (collected nested (collectTraf header)).parse data)
  | .tfhd => do return .tfhd (← BoxType.demux build header data)
  | .tfdt => do return .tfdt (← BoxType.demux build header data)
  | .trun => do return .trun (← BoxType.demux build header data)
  | .mdat => do return .mdat (← BoxType.demux build header data)
  | .av01 => do return .av01 (← (entered nested (collectAv01 header)).parse data)
  | .av1C => do return .av1C (← BoxType.demux build header data)
  | .colr => do return .colr (← BoxType.demux build header data)
  | .hev1 => do return .hev1 (← (entered nested (collectHev1 header)).parse data)
  | .hvcC => do return .hvcC (← BoxType.demux build header data)
  | .opus => do return .opus (← (entered nested (collectOpus header)).parse data)

/-- Read a payload as the type its header names.  `nested` reads a box inside
it. -/
def ofData (header : BoxHeader) (data : Bytes) : Except IoFault DynBox :=
  match BoxKind.ofName header.boxType with
  | some kind => ofKind build nested header data kind
  | none => .ok (.unknown header data)

end Reading

/-- Read one box, following nested boxes to the given depth. -/
def demuxWithin (build : Build) : Nat → Reader IoFault DynBox
  | 0 => fail IoFault.unfinished
  | depth + 1 => do
      let (header, data) ← BoxHeader.demux build.checks
      ofExcept (ofData build (demuxWithin build depth) header data)

/-- Every nested payload is shorter than the buffer it is cut from. -/
def demux (build : Build) : Reader IoFault DynBox := fun buffer position =>
  demuxWithin build (buffer.length + 1) buffer position

/-- The boxes of a payload that is a run of boxes. -/
def children (build : Build) (depth : Nat) (data : Bytes) :
    Except IoFault (List DynBox) :=
  (untilEnd IoFault.unfinished (demuxWithin build depth)).parse data

end DynBox

/-! ## Containers as boxes -/

instance : BoxType (Moov DynBox) where
  name := Moov.name
  demux build header data :=
    (DynBox.collected (DynBox.demuxWithin build (data.length + 1))
      (DynBox.collectMoov header)).parse data
  primitiveSize := DynBox.primitiveSizeMoov
  primitiveMux := DynBox.primitiveMuxMoov
  validate _ := .ok ()

instance : BoxType (Mvex DynBox) where
  name := Mvex.name
  demux build header data :=
    (DynBox.collected (DynBox.demuxWithin build (data.length + 1))
      (DynBox.collectMvex header)).parse data
  primitiveSize := DynBox.primitiveSizeMvex
  primitiveMux := DynBox.primitiveMuxMvex
  validate _ := .ok ()

instance : BoxType (Trak DynBox) where
  name := Trak.name
  demux build header data :=
    (DynBox.collected (DynBox.demuxWithin build (data.length + 1))
      (DynBox.collectTrak header)).parse data
  primitiveSize := DynBox.primitiveSizeTrak
  primitiveMux := DynBox.primitiveMuxTrak
  validate _ := .ok ()

instance : BoxType (Mdia DynBox) where
  name := Mdia.name
  demux build header data :=
    (DynBox.collected (DynBox.demuxWithin build (data.length + 1))
      (DynBox.collectMdia header)).parse data
  primitiveSize := DynBox.primitiveSizeMdia
  primitiveMux := DynBox.primitiveMuxMdia
  validate _ := .ok ()

instance : BoxType (Edts DynBox) where
  name := Edts.name
  demux build header data :=
    (DynBox.collected (DynBox.demuxWithin build (data.length + 1))
      (DynBox.collectEdts header)).parse data
  primitiveSize := DynBox.primitiveSizeEdts
  primitiveMux := DynBox.primitiveMuxEdts
  validate _ := .ok ()

instance : BoxType (Minf DynBox) where
  name := Minf.name
  demux build header data :=
    (DynBox.collected (DynBox.demuxWithin build (data.length + 1))
      (DynBox.collectMinf header)).parse data
  primitiveSize := DynBox.primitiveSizeMinf
  primitiveMux := DynBox.primitiveMuxMinf
  validate _ := .ok ()

instance : BoxType (Dinf DynBox) where
  name := Dinf.name
  demux build header data :=
    (DynBox.collected (DynBox.demuxWithin build (data.length + 1))
      (DynBox.collectDinf header)).parse data
  primitiveSize := DynBox.primitiveSizeDinf
  primitiveMux := DynBox.primitiveMuxDinf
  validate _ := .ok ()

instance : BoxType (Stbl DynBox) where
  name := Stbl.name
  demux build header data :=
    (DynBox.collected (DynBox.demuxWithin build (data.length + 1))
      (DynBox.collectStbl header)).parse data
  primitiveSize := DynBox.primitiveSizeStbl
  primitiveMux := DynBox.primitiveMuxStbl
  validate _ := .ok ()

instance : BoxType (Dref DynBox) where
  name := Dref.name
  demux build header data :=
    (DynBox.counted (DynBox.demuxWithin build (data.length + 1)) (fun _ => pure ())
      Dref.mk header).parse data
  primitiveSize := DynBox.primitiveSizeDref
  primitiveMux := DynBox.primitiveMuxDref
  validate box := box.validate

instance : BoxType (Stsd DynBox) where
  name := Stsd.name
  demux build header data :=
    (DynBox.counted (DynBox.demuxWithin build (data.length + 1))
      (allocate build.memory header.boxType) Stsd.mk header).parse data
  primitiveSize := DynBox.primitiveSizeStsd
  primitiveMux := DynBox.primitiveMuxStsd
  validate box := box.validate

instance : BoxType (Avc1 DynBox) where
  name := Avc1.name
  demux build header data :=
    (DynBox.entered (DynBox.demuxWithin build (data.length + 1))
      (DynBox.collectAvc1 header)).parse data
  primitiveSize := DynBox.primitiveSizeAvc1
  primitiveMux := DynBox.primitiveMuxAvc1
  validate _ := .ok ()

instance : BoxType (Mp4a DynBox) where
  name := Mp4a.name
  demux build header data :=
    (DynBox.entered (DynBox.demuxWithin build (data.length + 1))
      (DynBox.collectMp4a header)).parse data
  primitiveSize := DynBox.primitiveSizeMp4a
  primitiveMux := DynBox.primitiveMuxMp4a
  validate _ := .ok ()

instance : BoxType (Moof DynBox) where
  name := Moof.name
  demux build header data := do
    DynBox.collectMoof header (← DynBox.children build (data.length + 1) data)
  primitiveSize := DynBox.primitiveSizeMoof
  primitiveMux := DynBox.primitiveMuxMoof
  validate _ := .ok ()

instance : BoxType (Traf DynBox) where
  name := Traf.name
  demux build header data := do
    DynBox.collectTraf header (← DynBox.children build (data.length + 1) data)
  primitiveSize := DynBox.primitiveSizeTraf
  primitiveMux := DynBox.primitiveMuxTraf
  validate _ := .ok ()

instance : BoxType (Av01 DynBox) where
  name := Av01.name
  demux build header data :=
    (DynBox.entered (DynBox.demuxWithin build (data.length + 1))
      (DynBox.collectAv01 header)).parse data
  primitiveSize := DynBox.primitiveSizeAv01
  primitiveMux := DynBox.primitiveMuxAv01
  validate _ := .ok ()

instance : BoxType (Hev1 DynBox) where
  name := Hev1.name
  demux build header data :=
    (DynBox.entered (DynBox.demuxWithin build (data.length + 1))
      (DynBox.collectHev1 header)).parse data
  primitiveSize := DynBox.primitiveSizeHev1
  primitiveMux := DynBox.primitiveMuxHev1
  validate _ := .ok ()

instance : BoxType (Opus DynBox) where
  name := Opus.name
  demux build header data :=
    (DynBox.entered (DynBox.demuxWithin build (data.length + 1))
      (DynBox.collectOpus header)).parse data
  primitiveSize := DynBox.primitiveSizeOpus
  primitiveMux := DynBox.primitiveMuxOpus
  validate _ := .ok ()

@[simp]
theorem Traf.boxName : BoxType.name (Traf DynBox) = Traf.name := rfl

@[simp]
theorem Moof.boxName : BoxType.name (Moof DynBox) = Moof.name := rfl

namespace DynBox

theorem demuxWithin_succ (build : Build) (depth : Nat) :
    demuxWithin build (depth + 1) = (do
      let (header, data) ← BoxHeader.demux build.checks
      ofExcept (ofData build (demuxWithin build depth) header data)) := rfl

/-- A framed payload is read as the box its type makes of it. -/
theorem demuxWithin_frame (build : Build) {depth : Nat} {name : FourCC}
    {payload : Bytes} {box : DynBox} (room : payload.length + 16 < 2 ^ 64)
    (parsed : ofData build (demuxWithin build depth) ⟨name⟩ payload = .ok box) :
    Reads (demuxWithin build (depth + 1)) (frame name payload) box := by
  rw [demuxWithin_succ]
  apply (demux_frame build.checks name room).finish
  exact Reads.ofExcept parsed

section Types

variable (build : Build) (nested : Reader IoFault DynBox) {payload : Bytes}

/-- A payload behind a name of the table is read as that type. -/
theorem ofData_name (kind : BoxKind) : ofData build nested ⟨kind.name⟩ payload =
    ofKind build nested ⟨kind.name⟩ payload kind := by
  rw [ofData, BoxKind.ofName_name]

/-- What is read as a type is a box of that type. -/
theorem kind_ofKind {header : BoxHeader} {kind : BoxKind} {box : DynBox}
    (read : ofKind build nested header payload kind = .ok box) : box.kind = some kind := by
  cases kind
  all_goals
    obtain ⟨value, _, same⟩ := sequence_eq_ok_iff.mp read
    cases same
    rfl

/-- The type of a box is the one its header names. -/
theorem kind_ofData {header : BoxHeader} {box : DynBox}
    (read : ofData build nested header payload = .ok box) :
    box.kind = BoxKind.ofName header.boxType := by
  unfold ofData at read
  split at read
  · rename_i kind named
    rw [named]
    exact kind_ofKind build nested read
  · rename_i unnamed
    cases read
    exact unnamed.symm

/-- Boxes that fill a payload go to the container that sorts them. -/
theorem parse_collected {β : Type} {collect : List DynBox → Except IoFault β} {box : β}
    {boxes : List DynBox} (found : (untilEnd IoFault.unfinished nested).parse payload = .ok boxes)
    (sorted : collect boxes = .ok box) : (collected nested collect).parse payload = .ok box := by
  unfold parse at found ⊢
  rw [collected, bind_apply]
  cases read : untilEnd IoFault.unfinished nested payload 0 with
  | error fault =>
      rw [read] at found
      cases found
  | ok pair =>
      rw [read] at found
      cases found
      dsimp only
      rw [sorted]
      rfl

theorem ofData_plain {β : Type} [BoxType β] {inject : β → DynBox} (kind : BoxKind)
    (plain : ∀ header data, ofKind build nested header data kind =
      (do return inject (← BoxType.demux build header data)))
    {box : β} (parsed : BoxType.demux build ⟨kind.name⟩ payload = .ok box) :
    ofData build nested ⟨kind.name⟩ payload = .ok (inject box) := by
  rw [ofData_name, plain, parsed]
  rfl

theorem ofData_collected {β : Type} {inject : β → DynBox} (kind : BoxKind)
    {collect : BoxHeader → List DynBox → Except IoFault β}
    (container : ∀ header data, ofKind build nested header data kind =
      (do return inject (← (collected nested (collect header)).parse data)))
    {boxes : List DynBox} {box : β}
    (found : (untilEnd IoFault.unfinished nested).parse payload = .ok boxes)
    (sorted : collect ⟨kind.name⟩ boxes = .ok box) :
    ofData build nested ⟨kind.name⟩ payload = .ok (inject box) := by
  rw [ofData_name, container, parse_collected nested found sorted]
  rfl

theorem ofData_mfhd {box : Mfhd} (read : Reads (Mfhd.read ⟨Mfhd.name⟩) payload box) :
    ofData build nested ⟨Mfhd.name⟩ payload = .ok (.mfhd box) :=
  ofData_plain build nested .mfhd (fun _ _ => rfl) read.parse

theorem ofData_tfhd {box : Tfhd} (read : Reads (Tfhd.read ⟨Tfhd.name⟩) payload box) :
    ofData build nested ⟨Tfhd.name⟩ payload = .ok (.tfhd box) :=
  ofData_plain build nested .tfhd (fun _ _ => rfl) read.parse

theorem ofData_tfdt {box : Tfdt} (read : Reads (Tfdt.read ⟨Tfdt.name⟩) payload box) :
    ofData build nested ⟨Tfdt.name⟩ payload = .ok (.tfdt box) :=
  ofData_plain build nested .tfdt (fun _ _ => rfl) read.parse

theorem ofData_trun {box : Trun} (read : Reads (Trun.read build.memory ⟨Trun.name⟩) payload box) :
    ofData build nested ⟨Trun.name⟩ payload = .ok (.trun box) :=
  ofData_plain build nested .trun (fun _ _ => rfl) read.parse

theorem ofData_mdat : ofData build nested ⟨Mdat.name⟩ payload =
    .ok (.mdat ⟨⟨Mdat.name⟩, [payload]⟩) :=
  ofData_plain build nested .mdat (fun _ _ => rfl) rfl

theorem ofData_traf {boxes : List DynBox} {box : Traf DynBox}
    (found : (untilEnd IoFault.unfinished nested).parse payload = .ok boxes)
    (sorted : collectTraf ⟨Traf.name⟩ boxes = .ok box) :
    ofData build nested ⟨Traf.name⟩ payload = .ok (.traf box) :=
  ofData_collected build nested .traf (fun _ _ => rfl) found sorted

theorem ofData_moof {boxes : List DynBox} {box : Moof DynBox}
    (found : (untilEnd IoFault.unfinished nested).parse payload = .ok boxes)
    (sorted : collectMoof ⟨Moof.name⟩ boxes = .ok box) :
    ofData build nested ⟨Moof.name⟩ payload = .ok (.moof box) :=
  ofData_collected build nested .moof (fun _ _ => rfl) found sorted

end Types

/-- A frame is read as the type of its name reads the payload. -/
theorem demux_frame_plain {β : Type} [BoxType β] (build : Build) {inject : β → DynBox}
    (kind : BoxKind)
    (plain : ∀ nested header data, ofKind build nested header data kind =
      (do return inject (← BoxType.demux build header data)))
    {payload : Bytes} (room : payload.length + 16 < 2 ^ 64) :
    demux build (frame kind.name payload) 0 =
      (BoxType.demux build ⟨kind.name⟩ payload).map fun box =>
        (inject box, (frame kind.name payload).length) := by
  rw [demux, demuxWithin_succ, bind_ok (demux_frame build.checks kind.name room).run]
  dsimp only
  rw [ofData_name, plain]
  cases (BoxType.demux build ⟨kind.name⟩ payload : Except IoFault β) with
  | error fault => rfl
  | ok read => rfl

/-- A box of a type without boxes inside is what the type makes of some payload. -/
theorem of_demux_plain {β : Type} [BoxType β] {build : Build} {inject : β → DynBox}
    {kind : BoxKind} (plain : ∀ nested header data, ofKind build nested header data kind =
      (do return inject (← BoxType.demux build header data)))
    (injective : Function.Injective inject) {buffer : Bytes} {position stop : Nat} {box : β}
    (typed : (inject box).kind = some kind)
    (read : demux build buffer position = .ok (inject box, stop)) :
    ∃ data, BoxType.demux build ⟨kind.name⟩ data = .ok box := by
  obtain ⟨⟨header, data⟩, middle, _, more⟩ := bind_eq_ok_iff.mp read
  have parsed := (ok_of_ofExcept more).1
  have named : BoxKind.ofName header.boxType = some kind :=
    (kind_ofData build _ parsed).symm.trans typed
  have same : header = ⟨kind.name⟩ := congrArg BoxHeader.mk (BoxKind.name_of_ofName named).symm
  rw [same, ofData_name, plain] at parsed
  obtain ⟨value, payload, equal⟩ := sequence_eq_ok_iff.mp parsed
  have found := injective (Except.ok.inj equal)
  exact ⟨data, found ▸ payload⟩

end DynBox

end ScuffleVideo.Mp4
