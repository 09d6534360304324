import ScuffleVideo.Mp4.EntryRecovery
import ScuffleVideo.Mp4.SizeLaw
import ScuffleVideo.Mp4.TableRecovery

/-!
# Trees of boxes that come back

A container writes the boxes inside it in an order of its own and finds them by their type
when it reads them.  Both agree if the boxes that it does not know are of other types, and
then the container is what its own parts make it.
-/

namespace ScuffleVideo.Mp4

open Wire Wire.Reader

namespace DynBox

/-! ## Finding boxes by type -/

def asTfhd : DynBox → Option Tfhd
  | .tfhd box => some box
  | _ => none

def asTrun : DynBox → Option Trun
  | .trun box => some box
  | _ => none

def asTfdt : DynBox → Option Tfdt
  | .tfdt box => some box
  | _ => none

def asMfhd : DynBox → Option Mfhd
  | .mfhd box => some box
  | _ => none

def asTraf : DynBox → Option (Traf DynBox)
  | .traf box => some box
  | _ => none

/-- A choice of the boxes of one type. -/
class Picks {β : Type} (pick : DynBox → Option β) (inject : outParam (β → DynBox))
    (kind : outParam BoxKind) : Prop where
  eq_of : ∀ {box value}, pick box = some value → box = inject value
  pick_inject : ∀ value, pick (inject value) = some value
  kind_inject : ∀ value, (inject value).kind = some kind

instance : Picks asMvhd .mvhd .mvhd where
  eq_of found := by
    unfold asMvhd at found
    split at found <;> cases found
    rfl
  pick_inject _ := rfl
  kind_inject _ := rfl

instance : Picks asTrak .trak .trak where
  eq_of found := by
    unfold asTrak at found
    split at found <;> cases found
    rfl
  pick_inject _ := rfl
  kind_inject _ := rfl

instance : Picks asMvex .mvex .mvex where
  eq_of found := by
    unfold asMvex at found
    split at found <;> cases found
    rfl
  pick_inject _ := rfl
  kind_inject _ := rfl

instance : Picks asTrex .trex .trex where
  eq_of found := by
    unfold asTrex at found
    split at found <;> cases found
    rfl
  pick_inject _ := rfl
  kind_inject _ := rfl

instance : Picks asMehd .mehd .mehd where
  eq_of found := by
    unfold asMehd at found
    split at found <;> cases found
    rfl
  pick_inject _ := rfl
  kind_inject _ := rfl

instance : Picks asTkhd .tkhd .tkhd where
  eq_of found := by
    unfold asTkhd at found
    split at found <;> cases found
    rfl
  pick_inject _ := rfl
  kind_inject _ := rfl

instance : Picks asEdts .edts .edts where
  eq_of found := by
    unfold asEdts at found
    split at found <;> cases found
    rfl
  pick_inject _ := rfl
  kind_inject _ := rfl

instance : Picks asMdia .mdia .mdia where
  eq_of found := by
    unfold asMdia at found
    split at found <;> cases found
    rfl
  pick_inject _ := rfl
  kind_inject _ := rfl

instance : Picks asMdhd .mdhd .mdhd where
  eq_of found := by
    unfold asMdhd at found
    split at found <;> cases found
    rfl
  pick_inject _ := rfl
  kind_inject _ := rfl

instance : Picks asHdlr .hdlr .hdlr where
  eq_of found := by
    unfold asHdlr at found
    split at found <;> cases found
    rfl
  pick_inject _ := rfl
  kind_inject _ := rfl

instance : Picks asMinf .minf .minf where
  eq_of found := by
    unfold asMinf at found
    split at found <;> cases found
    rfl
  pick_inject _ := rfl
  kind_inject _ := rfl

instance : Picks asElst .elst .elst where
  eq_of found := by
    unfold asElst at found
    split at found <;> cases found
    rfl
  pick_inject _ := rfl
  kind_inject _ := rfl

instance : Picks asVmhd .vmhd .vmhd where
  eq_of found := by
    unfold asVmhd at found
    split at found <;> cases found
    rfl
  pick_inject _ := rfl
  kind_inject _ := rfl

instance : Picks asSmhd .smhd .smhd where
  eq_of found := by
    unfold asSmhd at found
    split at found <;> cases found
    rfl
  pick_inject _ := rfl
  kind_inject _ := rfl

instance : Picks asHmhd .hmhd .hmhd where
  eq_of found := by
    unfold asHmhd at found
    split at found <;> cases found
    rfl
  pick_inject _ := rfl
  kind_inject _ := rfl

instance : Picks asNmhd .nmhd .nmhd where
  eq_of found := by
    unfold asNmhd at found
    split at found <;> cases found
    rfl
  pick_inject _ := rfl
  kind_inject _ := rfl

instance : Picks asDinf .dinf .dinf where
  eq_of found := by
    unfold asDinf at found
    split at found <;> cases found
    rfl
  pick_inject _ := rfl
  kind_inject _ := rfl

instance : Picks asStbl .stbl .stbl where
  eq_of found := by
    unfold asStbl at found
    split at found <;> cases found
    rfl
  pick_inject _ := rfl
  kind_inject _ := rfl

instance : Picks asDref .dref .dref where
  eq_of found := by
    unfold asDref at found
    split at found <;> cases found
    rfl
  pick_inject _ := rfl
  kind_inject _ := rfl

instance : Picks asStsd .stsd .stsd where
  eq_of found := by
    unfold asStsd at found
    split at found <;> cases found
    rfl
  pick_inject _ := rfl
  kind_inject _ := rfl

instance : Picks asStts .stts .stts where
  eq_of found := by
    unfold asStts at found
    split at found <;> cases found
    rfl
  pick_inject _ := rfl
  kind_inject _ := rfl

instance : Picks asCtts .ctts .ctts where
  eq_of found := by
    unfold asCtts at found
    split at found <;> cases found
    rfl
  pick_inject _ := rfl
  kind_inject _ := rfl

instance : Picks asStsc .stsc .stsc where
  eq_of found := by
    unfold asStsc at found
    split at found <;> cases found
    rfl
  pick_inject _ := rfl
  kind_inject _ := rfl

instance : Picks asStsz .stsz .stsz where
  eq_of found := by
    unfold asStsz at found
    split at found <;> cases found
    rfl
  pick_inject _ := rfl
  kind_inject _ := rfl

instance : Picks asStz2 .stz2 .stz2 where
  eq_of found := by
    unfold asStz2 at found
    split at found <;> cases found
    rfl
  pick_inject _ := rfl
  kind_inject _ := rfl

instance : Picks asStco .stco .stco where
  eq_of found := by
    unfold asStco at found
    split at found <;> cases found
    rfl
  pick_inject _ := rfl
  kind_inject _ := rfl

instance : Picks asCo64 .co64 .co64 where
  eq_of found := by
    unfold asCo64 at found
    split at found <;> cases found
    rfl
  pick_inject _ := rfl
  kind_inject _ := rfl

instance : Picks asStss .stss .stss where
  eq_of found := by
    unfold asStss at found
    split at found <;> cases found
    rfl
  pick_inject _ := rfl
  kind_inject _ := rfl

instance : Picks asStsh .stsh .stsh where
  eq_of found := by
    unfold asStsh at found
    split at found <;> cases found
    rfl
  pick_inject _ := rfl
  kind_inject _ := rfl

instance : Picks asPadb .padb .padb where
  eq_of found := by
    unfold asPadb at found
    split at found <;> cases found
    rfl
  pick_inject _ := rfl
  kind_inject _ := rfl

instance : Picks asStdp .stdp .stdp where
  eq_of found := by
    unfold asStdp at found
    split at found <;> cases found
    rfl
  pick_inject _ := rfl
  kind_inject _ := rfl

instance : Picks asSdtp .sdtp .sdtp where
  eq_of found := by
    unfold asSdtp at found
    split at found <;> cases found
    rfl
  pick_inject _ := rfl
  kind_inject _ := rfl

instance : Picks asSbgp .sbgp .sbgp where
  eq_of found := by
    unfold asSbgp at found
    split at found <;> cases found
    rfl
  pick_inject _ := rfl
  kind_inject _ := rfl

instance : Picks asSubs .subs .subs where
  eq_of found := by
    unfold asSubs at found
    split at found <;> cases found
    rfl
  pick_inject _ := rfl
  kind_inject _ := rfl

instance : Picks asAvcC .avcC .avcC where
  eq_of found := by
    unfold asAvcC at found
    split at found <;> cases found
    rfl
  pick_inject _ := rfl
  kind_inject _ := rfl

instance : Picks asHvcC .hvcC .hvcC where
  eq_of found := by
    unfold asHvcC at found
    split at found <;> cases found
    rfl
  pick_inject _ := rfl
  kind_inject _ := rfl

instance : Picks asAv1C .av1C .av1C where
  eq_of found := by
    unfold asAv1C at found
    split at found <;> cases found
    rfl
  pick_inject _ := rfl
  kind_inject _ := rfl

instance : Picks asEsds .esds .esds where
  eq_of found := by
    unfold asEsds at found
    split at found <;> cases found
    rfl
  pick_inject _ := rfl
  kind_inject _ := rfl

instance : Picks asBtrt .btrt .btrt where
  eq_of found := by
    unfold asBtrt at found
    split at found <;> cases found
    rfl
  pick_inject _ := rfl
  kind_inject _ := rfl

instance : Picks asClap .clap .clap where
  eq_of found := by
    unfold asClap at found
    split at found <;> cases found
    rfl
  pick_inject _ := rfl
  kind_inject _ := rfl

instance : Picks asPasp .pasp .pasp where
  eq_of found := by
    unfold asPasp at found
    split at found <;> cases found
    rfl
  pick_inject _ := rfl
  kind_inject _ := rfl

instance : Picks asColr .colr .colr where
  eq_of found := by
    unfold asColr at found
    split at found <;> cases found
    rfl
  pick_inject _ := rfl
  kind_inject _ := rfl

instance : Picks asTfhd .tfhd .tfhd where
  eq_of found := by
    unfold asTfhd at found
    split at found <;> cases found
    rfl
  pick_inject _ := rfl
  kind_inject _ := rfl

instance : Picks asTrun .trun .trun where
  eq_of found := by
    unfold asTrun at found
    split at found <;> cases found
    rfl
  pick_inject _ := rfl
  kind_inject _ := rfl

instance : Picks asTfdt .tfdt .tfdt where
  eq_of found := by
    unfold asTfdt at found
    split at found <;> cases found
    rfl
  pick_inject _ := rfl
  kind_inject _ := rfl

instance : Picks asMfhd .mfhd .mfhd where
  eq_of found := by
    unfold asMfhd at found
    split at found <;> cases found
    rfl
  pick_inject _ := rfl
  kind_inject _ := rfl

instance : Picks asTraf .traf .traf where
  eq_of found := by
    unfold asTraf at found
    split at found <;> cases found
    rfl
  pick_inject _ := rfl
  kind_inject _ := rfl

/-- None of the boxes is of one of the types. -/
def Apart (known : List BoxKind) (boxes : List DynBox) : Prop :=
  ∀ box ∈ boxes, ∀ kind ∈ known, box.kind ≠ some kind

section Picks

variable {β : Type} {pick : DynBox → Option β} {inject : β → DynBox} {kind : BoxKind}
  {known : List BoxKind} {boxes : List DynBox}

theorem filterMap_apart (apart : Apart known boxes) [picks : Picks pick inject kind]
    (inside : kind ∈ known) : boxes.filterMap pick = [] := by
  rw [List.filterMap_eq_nil_iff]
  intro box member
  cases found : pick box with
  | none => rfl
  | some value =>
      rw [picks.eq_of found] at member
      exact absurd (picks.kind_inject value) (apart _ member kind inside)

end Picks

theorem othersThan_apart {known : List BoxKind} {boxes : List DynBox}
    (apart : Apart known boxes) : othersThan known boxes = boxes := by
  rw [othersThan, List.filter_eq_self]
  intro box member
  cases typed : box.kind with
  | none => rfl
  | some kind =>
      rw [Bool.not_eq_true', ← Bool.not_eq_true, List.contains_iff_mem]
      exact fun inside => apart box member kind inside typed

theorem othersThan_append (known : List BoxKind) (boxes more : List DynBox) :
    othersThan known (boxes ++ more) = othersThan known boxes ++ othersThan known more :=
  List.filter_append boxes more

/-- Boxes of a type that the container knows are not among the others. -/
theorem othersThan_inject {β : Type} {inject : β → DynBox} {kind : BoxKind}
    (typed : ∀ value, (inject value).kind = some kind) {known : List BoxKind}
    (inside : kind ∈ known) (values : List β) : othersThan known (values.map inject) = [] := by
  rw [othersThan, List.filter_eq_nil_iff]
  intro box member
  obtain ⟨value, _, rfl⟩ := List.mem_map.mp member
  rw [typed value]
  simp [inside]

/-! ## Sorting -/

theorem lastOf_concat {β : Type} (pick : DynBox → Option β) (boxes : List DynBox)
    (box : DynBox) : lastOf pick (boxes ++ [box]) = (pick box).or (lastOf pick boxes) := by
  unfold lastOf
  rw [List.filterMap_append]
  cases found : pick box with
  | none => simp [found]
  | some value => simp [found]

theorem TrafParts.add_eq (parts : TrafParts) (box : DynBox) :
    parts.add box =
      ⟨(asTfhd box).or parts.tfhd, (asTrun box).or parts.trun, (asSbgp box).or parts.sbgp,
        (asSubs box).or parts.subs, (asTfdt box).or parts.tfdt,
        parts.unknown ++ othersThan [.tfhd, .trun, .sbgp, .subs, .tfdt] [box]⟩ := by
  cases box with
  | tfhd | trun | sbgp | subs | tfdt => exact congrArg _ (List.append_nil _).symm
  | _ => rfl

/-- Boxes that are sorted as they come are sorted as if they were sorted at the end. -/
theorem foldl_trafParts (boxes : List DynBox) :
    boxes.foldl TrafParts.add ⟨none, none, none, none, none, []⟩ =
      ⟨lastOf asTfhd boxes, lastOf asTrun boxes, lastOf asSbgp boxes, lastOf asSubs boxes,
        lastOf asTfdt boxes, othersThan [.tfhd, .trun, .sbgp, .subs, .tfdt] boxes⟩ := by
  induction boxes using List.reverseRecOn with
  | nil => rfl
  | append_singleton boxes box ih =>
      rw [List.foldl_concat, ih, TrafParts.add_eq]
      simp only [lastOf_concat, othersThan_append]

theorem collectTraf_eq (header : BoxHeader) (boxes : List DynBox) :
    collectTraf header boxes = (do
      let tfhdBox ← required "traf box must contain tfhd box" (lastOf asTfhd boxes)
      return ⟨header, tfhdBox, lastOf asTrun boxes, lastOf asSbgp boxes, lastOf asSubs boxes,
        lastOf asTfdt boxes, othersThan [.tfhd, .trun, .sbgp, .subs, .tfdt] boxes⟩) := by
  unfold collectTraf
  rw [foldl_trafParts]
  dsimp only
  cases lastOf asTfhd boxes <;> rfl

theorem MoofParts.add_eq (parts : MoofParts) (box : DynBox) :
    parts.add box =
      ⟨(asMfhd box).or parts.mfhd, parts.traf ++ [box].filterMap asTraf,
        parts.unknown ++ othersThan [.mfhd, .traf] [box]⟩ := by
  cases box with
  | mfhd =>
      exact congr (congrArg _ (List.append_nil _).symm) (List.append_nil _).symm
  | traf => exact congrArg _ (List.append_nil _).symm
  | _ => exact congrArg (MoofParts.mk _ · _) (List.append_nil _).symm

theorem foldl_moofParts (boxes : List DynBox) :
    boxes.foldl MoofParts.add ⟨none, [], []⟩ =
      ⟨lastOf asMfhd boxes, boxes.filterMap asTraf, othersThan [.mfhd, .traf] boxes⟩ := by
  induction boxes using List.reverseRecOn with
  | nil => rfl
  | append_singleton boxes box ih =>
      rw [List.foldl_concat, ih, MoofParts.add_eq]
      simp only [lastOf_concat, othersThan_append, List.filterMap_append]

theorem collectMoof_eq (header : BoxHeader) (boxes : List DynBox) :
    collectMoof header boxes = (do
      let mfhdBox ← required "moof box must contain mfhd box" (lastOf asMfhd boxes)
      return ⟨header, mfhdBox, boxes.filterMap asTraf, othersThan [.mfhd, .traf] boxes⟩) := by
  unfold collectMoof
  rw [foldl_moofParts]
  dsimp only
  cases lastOf asMfhd boxes <;> rfl

/-- A container whose header is of its own type, and whose further boxes are not of the types
that it knows. -/
structure Sorted (kind : BoxKind) (known : List BoxKind) (header : BoxHeader)
    (others : List DynBox) : Prop where
  named : header = ⟨kind.name⟩
  apart : Apart known others

theorem othersThan_picked {β : Type} (pick : DynBox → Option β) {inject : β → DynBox}
    {kind : BoxKind} [picks : Picks pick inject kind] {known : List BoxKind}
    (inside : kind ∈ known) (values : List β) : othersThan known (values.map inject) = [] :=
  othersThan_inject picks.kind_inject inside values

theorem othersThan_one {β : Type} (pick : DynBox → Option β) {inject : β → DynBox}
    {kind : BoxKind} [picks : Picks pick inject kind] {known : List BoxKind}
    (inside : kind ∈ known) (value : β) : othersThan known [inject value] = [] :=
  othersThan_inject picks.kind_inject inside [value]

theorem getLast?_toList {α : Type} (value : Option α) : value.toList.getLast? = value := by
  cases value <;> rfl

theorem filterMap_nothing {α β : Type} (values : List α) :
    values.filterMap (fun _ => (none : Option β)) = [] :=
  List.filterMap_eq_nil_iff.mpr fun _ _ => rfl

theorem collectMoov_parts {box : Moov DynBox}
    (fits : Sorted .moov [.mvhd, .trak, .mvex] box.header box.unknown) :
    collectMoov ⟨Moov.name⟩ (parts (.moov box)) = .ok box := by
  cases box
  cases fits.named
  simp (disch := decide) only [collectMoov, lastOf, parts, filterMap_apart fits.apart,
    othersThan_apart fits.apart, othersThan_append, othersThan_one asMvhd, othersThan_picked
    asTrak, othersThan_picked asMvex, asMvhd, asTrak, asMvex, List.filterMap_append,
    List.filterMap_map, filterMap_nothing, List.filterMap_some, Function.comp_def,
    List.filterMap_cons, List.filterMap_nil, List.nil_append, List.append_nil,
    List.getLast?_singleton, getLast?_toList, required]
  rfl

theorem collectMvex_parts {box : Mvex DynBox}
    (fits : Sorted .mvex [.trex, .mehd] box.header box.unknown) :
    collectMvex ⟨Mvex.name⟩ (parts (.mvex box)) = .ok box := by
  cases box
  cases fits.named
  simp (disch := decide) only [collectMvex, lastOf, parts, filterMap_apart fits.apart,
    othersThan_apart fits.apart, othersThan_append, othersThan_picked asTrex, othersThan_picked
    asMehd, asTrex, asMehd, List.filterMap_append, List.filterMap_map, filterMap_nothing,
    List.filterMap_some, Function.comp_def, List.nil_append, List.append_nil, getLast?_toList]
  rfl

theorem collectTrak_parts {box : Trak DynBox}
    (fits : Sorted .trak [.tkhd, .edts, .mdia] box.header box.unknown) :
    collectTrak ⟨Trak.name⟩ (parts (.trak box)) = .ok box := by
  cases box
  cases fits.named
  simp (disch := decide) only [collectTrak, lastOf, parts, filterMap_apart fits.apart,
    othersThan_apart fits.apart, othersThan_append, othersThan_one asTkhd, othersThan_picked
    asEdts, othersThan_one asMdia, asTkhd, asEdts, asMdia, List.filterMap_append,
    List.filterMap_map, filterMap_nothing, List.filterMap_some, Function.comp_def,
    List.filterMap_cons, List.filterMap_nil, List.nil_append, List.append_nil,
    List.getLast?_singleton, getLast?_toList, required]
  rfl

theorem collectMdia_parts {box : Mdia DynBox}
    (fits : Sorted .mdia [.mdhd, .hdlr, .minf] box.header box.unknown) :
    collectMdia ⟨Mdia.name⟩ (parts (.mdia box)) = .ok box := by
  cases box
  cases fits.named
  simp (disch := decide) only [collectMdia, lastOf, parts, filterMap_apart fits.apart,
    othersThan_apart fits.apart, othersThan_append, othersThan_one asMdhd, othersThan_one asHdlr,
    othersThan_one asMinf, asMdhd, asHdlr, asMinf, List.filterMap_append, List.filterMap_cons,
    List.filterMap_nil, List.nil_append, List.append_nil, List.getLast?_singleton, required]
  rfl

theorem collectEdts_parts {box : Edts DynBox}
    (fits : Sorted .edts [.elst] box.header box.unknown) :
    collectEdts ⟨Edts.name⟩ (parts (.edts box)) = .ok box := by
  cases box
  cases fits.named
  simp (disch := decide) only [collectEdts, lastOf, parts, filterMap_apart fits.apart,
    othersThan_apart fits.apart, othersThan_append, othersThan_picked asElst, asElst,
    List.filterMap_append, List.filterMap_map, List.filterMap_some,
    Function.comp_def, List.append_nil, getLast?_toList]
  rfl

theorem collectMinf_parts {box : Minf DynBox}
    (fits : Sorted .minf [.vmhd, .smhd, .hmhd, .nmhd, .dinf, .stbl] box.header box.unknown) :
    collectMinf ⟨Minf.name⟩ (parts (.minf box)) = .ok box := by
  cases box
  cases fits.named
  simp (disch := decide) only [collectMinf, lastOf, parts, filterMap_apart fits.apart,
    othersThan_apart fits.apart, othersThan_append, othersThan_picked asVmhd, othersThan_picked
    asSmhd, othersThan_picked asHmhd, othersThan_picked asNmhd, othersThan_one asDinf,
    othersThan_one asStbl, asVmhd, asSmhd, asHmhd, asNmhd, asDinf, asStbl, List.filterMap_append,
    List.filterMap_map, filterMap_nothing, List.filterMap_some, Function.comp_def,
    List.filterMap_cons, List.filterMap_nil, List.nil_append, List.append_nil,
    List.getLast?_singleton, getLast?_toList, required]
  rfl

theorem collectDinf_parts {box : Dinf DynBox}
    (fits : Sorted .dinf [.dref] box.header box.unknown) :
    collectDinf ⟨Dinf.name⟩ (parts (.dinf box)) = .ok box := by
  cases box
  cases fits.named
  simp (disch := decide) only [collectDinf, lastOf, parts, filterMap_apart fits.apart,
    othersThan_apart fits.apart, othersThan_append, othersThan_one asDref, asDref,
    List.filterMap_append, List.filterMap_cons, List.filterMap_nil, List.append_nil,
    List.getLast?_singleton]
  rfl

theorem collectStbl_parts {box : Stbl DynBox}
    (fits : Sorted .stbl [.stsd, .stts, .ctts, .stsc, .stsz, .stz2, .stco, .co64, .stss, .stsh,
      .padb, .stdp, .sdtp, .sbgp, .subs] box.header box.unknown) :
    collectStbl ⟨Stbl.name⟩ (parts (.stbl box)) = .ok box := by
  cases box
  cases fits.named
  simp (disch := decide) only [collectStbl, lastOf, parts, filterMap_apart fits.apart,
    othersThan_apart fits.apart, othersThan_append, othersThan_one asStsd, othersThan_one asStts,
    othersThan_picked asCtts, othersThan_one asStsc, othersThan_picked asStsz, othersThan_picked
    asStz2, othersThan_one asStco, othersThan_picked asCo64, othersThan_picked asStss,
    othersThan_picked asStsh, othersThan_picked asPadb, othersThan_picked asStdp, othersThan_picked
    asSdtp, othersThan_picked asSbgp, othersThan_picked asSubs, asStsd, asStts, asCtts, asStsc,
    asStsz, asStz2, asStco, asCo64, asStss, asStsh, asPadb, asStdp, asSdtp, asSbgp, asSubs,
    List.filterMap_append, List.filterMap_map, filterMap_nothing, List.filterMap_some,
    Function.comp_def, List.filterMap_cons, List.filterMap_nil, List.nil_append, List.append_nil,
    List.getLast?_singleton, getLast?_toList, required]
  rfl

theorem collectMoof_parts {box : Moof DynBox}
    (fits : Sorted .moof [.mfhd, .traf] box.header box.unknown) :
    collectMoof ⟨Moof.name⟩ (parts (.moof box)) = .ok box := by
  cases box
  cases fits.named
  simp (disch := decide) only [collectMoof_eq, lastOf, parts, filterMap_apart fits.apart,
    othersThan_apart fits.apart, othersThan_append, othersThan_one asMfhd, othersThan_picked
    asTraf, asMfhd, asTraf, List.filterMap_append, List.filterMap_map, filterMap_nothing,
    List.filterMap_some, Function.comp_def, List.filterMap_cons, List.filterMap_nil,
    List.nil_append, List.append_nil, List.getLast?_singleton, required]
  rfl

theorem collectTraf_parts {box : Traf DynBox}
    (fits : Sorted .traf [.tfhd, .trun, .sbgp, .subs, .tfdt] box.header box.unknown) :
    collectTraf ⟨Traf.name⟩ (parts (.traf box)) = .ok box := by
  cases box
  cases fits.named
  simp (disch := decide) only [collectTraf_eq, lastOf, parts, filterMap_apart fits.apart,
    othersThan_apart fits.apart, othersThan_append, othersThan_one asTfhd, othersThan_picked
    asTrun, othersThan_picked asSbgp, othersThan_picked asSubs, othersThan_picked asTfdt, asTfhd,
    asTrun, asSbgp, asSubs, asTfdt, List.filterMap_append, List.filterMap_map, filterMap_nothing,
    List.filterMap_some, Function.comp_def, List.filterMap_cons, List.filterMap_nil,
    List.nil_append, List.append_nil, List.getLast?_singleton, getLast?_toList, required]
  rfl

/-- The fields of a video entry without the boxes among them, as they are read first. -/
def withoutPicture (entry : SampleEntry VisualSampleEntry) : SampleEntry VisualSampleEntry :=
  { entry with extension := { entry.extension with clap := none, colr := none, pasp := none } }

theorem collectAvc1_parts {box : Avc1 DynBox}
    (fits : Sorted .avc1 [.avcC, .btrt, .clap, .pasp, .colr] box.header box.unknown) :
    collectAvc1 ⟨Avc1.name⟩ (withoutPicture box.visualSampleEntry) (parts (.avc1 box)) =
      .ok box := by
  cases box
  cases fits.named
  simp (disch := decide) only [collectAvc1, withPicture, withoutPicture, lastOf, parts,
    VisualSampleEntry.parts, filterMap_apart fits.apart, othersThan_apart fits.apart,
    othersThan_append, othersThan_picked asClap, othersThan_picked asPasp,
    othersThan_picked asColr, othersThan_one asAvcC, othersThan_picked asBtrt, asClap, asPasp,
    asColr, asAvcC, asBtrt, List.filterMap_append, List.filterMap_map, filterMap_nothing,
    List.filterMap_some, Function.comp_def, List.filterMap_cons, List.filterMap_nil,
    List.nil_append, List.append_nil, List.getLast?_singleton, getLast?_toList, required,
    Option.or_none]
  rfl

theorem collectHev1_parts {box : Hev1 DynBox}
    (fits : Sorted .hev1 [.hvcC, .btrt, .clap, .pasp, .colr] box.header box.unknown) :
    collectHev1 ⟨Hev1.name⟩ (withoutPicture box.visualSampleEntry) (parts (.hev1 box)) =
      .ok box := by
  cases box
  cases fits.named
  simp (disch := decide) only [collectHev1, withPicture, withoutPicture, lastOf, parts,
    VisualSampleEntry.parts, filterMap_apart fits.apart, othersThan_apart fits.apart,
    othersThan_append, othersThan_picked asClap, othersThan_picked asPasp,
    othersThan_picked asColr, othersThan_one asHvcC, othersThan_picked asBtrt, asClap, asPasp,
    asColr, asHvcC, asBtrt, List.filterMap_append, List.filterMap_map, filterMap_nothing,
    List.filterMap_some, Function.comp_def, List.filterMap_cons, List.filterMap_nil,
    List.nil_append, List.append_nil, List.getLast?_singleton, getLast?_toList, required,
    Option.or_none]
  rfl

theorem collectAv01_parts {box : Av01 DynBox}
    (fits : Sorted .av01 [.av1C, .btrt, .clap, .pasp, .colr] box.header box.unknown) :
    collectAv01 ⟨Av01.name⟩ (withoutPicture box.visualSampleEntry) (parts (.av01 box)) =
      .ok box := by
  cases box
  cases fits.named
  simp (disch := decide) only [collectAv01, withPicture, withoutPicture, lastOf, parts,
    VisualSampleEntry.parts, filterMap_apart fits.apart, othersThan_apart fits.apart,
    othersThan_append, othersThan_picked asClap, othersThan_picked asPasp,
    othersThan_picked asColr, othersThan_one asAv1C, othersThan_picked asBtrt, asClap, asPasp,
    asColr, asAv1C, asBtrt, List.filterMap_append, List.filterMap_map, filterMap_nothing,
    List.filterMap_some, Function.comp_def, List.filterMap_cons, List.filterMap_nil,
    List.nil_append, List.append_nil, List.getLast?_singleton, getLast?_toList, required,
    Option.or_none]
  rfl

theorem collectMp4a_parts {box : Mp4a DynBox}
    (fits : Sorted .mp4a [.btrt, .esds] box.header box.unknown) :
    collectMp4a ⟨Mp4a.name⟩ box.audioSampleEntry (parts (.mp4a box)) = .ok box := by
  cases box
  cases fits.named
  simp (disch := decide) only [collectMp4a, lastOf, parts, filterMap_apart fits.apart,
    othersThan_apart fits.apart, othersThan_append, othersThan_one asEsds,
    othersThan_picked asBtrt, asEsds, asBtrt, List.filterMap_append, List.filterMap_map,
    filterMap_nothing, List.filterMap_some, Function.comp_def, List.filterMap_cons,
    List.filterMap_nil, List.nil_append, List.append_nil, List.getLast?_singleton,
    getLast?_toList, required]
  rfl

theorem collectOpus_parts {box : Opus DynBox} (fits : Sorted .opus [.btrt] box.header box.unknown) :
    collectOpus ⟨Opus.name⟩ box.audioSampleEntry (parts (.opus box)) = .ok box := by
  cases box
  cases fits.named
  simp (disch := decide) only [collectOpus, lastOf, parts, filterMap_apart fits.apart,
    othersThan_apart fits.apart, othersThan_append, othersThan_picked asBtrt, asBtrt,
    List.filterMap_append, List.filterMap_map, List.filterMap_some, Function.comp_def,
    List.nil_append, List.append_nil, getLast?_toList]
  rfl

end DynBox

end ScuffleVideo.Mp4
