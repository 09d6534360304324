import ScuffleVideo.H264.Sps

/-!
# The layout of AVC sequence parameter sets

The fields of a parameter set up to the timing information, in the order in which they are
written.  A reader that follows the layout finds every field behind the one before it.
-/

namespace ScuffleVideo.H264

open Wire BitReader

/-! ## The extension of high profiles -/

/-- The sizes of the scaling lists that a sampling format has. -/
def listSizes (chromaFormatIdc : Nat) : List Nat :=
  List.replicate 6 16 ++ List.replicate (if chromaFormatIdc = 3 then 6 else 2) 64

/-- The changes of a scaling list end where they make the scale zero, or with the list. -/
def EndsScale : Nat → Int → List Int → Prop
  | 0, _, deltas => deltas = []
  | _ + 1, _, [] => False
  | count + 1, lastScale, delta :: deltas =>
      if (lastScale + delta + 256) % 256 = 0 then deltas = []
      else EndsScale count ((lastScale + delta + 256) % 256) deltas

/-- A signed field of less than 32 bits beside its sign. -/
def SmallSigned (number : Int) : Prop := -2 ^ 32 < number ∧ number < 2 ^ 32

structure ExtensionFields where
  chromaFormatIdc : Nat
  separateColourPlane : Bool
  bitDepthLumaMinus8 : Nat
  bitDepthChromaMinus8 : Nat
  qpprimeYZeroTransformBypass : Bool
  scalingMatrix : Option (List (Option (List Int)))

def scalingListBits (list : Option (List Int)) : List Bool :=
  [list.isSome] ++ list.elim [] fun deltas => deltas.flatMap seBits

namespace ExtensionFields

def bits (fields : ExtensionFields) : List Bool :=
  ueBits fields.chromaFormatIdc ++
  ((if fields.chromaFormatIdc = 3 then [fields.separateColourPlane] else []) ++
  (ueBits fields.bitDepthLumaMinus8 ++ (ueBits fields.bitDepthChromaMinus8 ++
  ([fields.qpprimeYZeroTransformBypass] ++ ([fields.scalingMatrix.isSome] ++
  fields.scalingMatrix.elim [] fun lists => lists.flatMap scalingListBits)))))

/-- Every number is below 32 bits, and there is a complete scaling list for every size. -/
structure Fits (fields : ExtensionFields) : Prop where
  chromaFormatIdc : fields.chromaFormatIdc < 2 ^ 32
  bitDepthLumaMinus8 : fields.bitDepthLumaMinus8 < 2 ^ 32
  bitDepthChromaMinus8 : fields.bitDepthChromaMinus8 < 2 ^ 32
  scalingMatrix : ∀ lists ∈ fields.scalingMatrix,
    List.Forall₂ (fun size list => ∀ deltas ∈ list, EndsScale size 8 deltas ∧
      ∀ delta ∈ deltas, SmallSigned delta) (listSizes fields.chromaFormatIdc) lists

def value (fields : ExtensionFields) : SpsExtended :=
  ⟨UInt64.ofNat fields.chromaFormatIdc, UInt64.ofNat fields.bitDepthLumaMinus8,
    UInt64.ofNat fields.bitDepthChromaMinus8⟩

end ExtensionFields

theorem decodes_se (checks : OverflowChecks) {number : Int} (small : SmallSigned number) :
    Decodes (readSignedExpGolomb checks) (seBits number) number :=
  Decodes.readSignedExpGolomb checks (by have := small.1; omega) (by have := small.2; omega)

/-- The scale of the reader may be negative, but it is the same number modulo 256. -/
theorem skipScalingList_decodes (checks : OverflowChecks) {count : Nat} {deltas : List Int}
    {nextScale lastScale : Int} (near : -256 < nextScale ∧ nextScale < 256)
    (same : nextScale % 256 = lastScale % 256) (ends : EndsScale count lastScale deltas)
    (small : ∀ delta ∈ deltas, SmallSigned delta) :
    Decodes (skipScalingList checks count nextScale) (deltas.flatMap seBits) () := by
  induction count generalizing deltas nextScale lastScale with
  | zero =>
      cases ends
      exact Decodes.pure ()
  | succ count ih =>
      cases deltas with
      | nil => exact ends.elim
      | cons delta deltas =>
          have here := small delta List.mem_cons_self
          have low := here.1
          have high := here.2
          have remainder : (nextScale + delta + 256).tmod 256 % 256 =
              (lastScale + delta + 256) % 256 := by
            have truncated := Int.tmod_add_mul_tdiv (nextScale + delta + 256) 256
            omega
          have bounds : -256 < (nextScale + delta + 256).tmod 256 ∧
              (nextScale + delta + 256).tmod 256 < 256 :=
            ⟨Int.lt_tmod_of_pos _ (by decide), Int.tmod_lt_of_pos _ (by decide)⟩
          rw [List.flatMap_cons]
          refine (decodes_se checks here).bind ?_
          rw [between_bind (asI64_of_lt checks (by omega) (by omega)),
            between_bind (asI64_of_lt checks (by omega) (by omega))]
          unfold EndsScale at ends
          by_cases last : (lastScale + delta + 256) % 256 = 0
          · rw [if_pos last] at ends
            subst ends
            rw [if_pos (by omega)]
            exact Decodes.pure ()
          · rw [if_neg last] at ends
            rw [if_neg (by omega)]
            exact ih bounds (by omega) ends fun delta member =>
              small delta (List.mem_cons_of_mem _ member)

theorem skipScalingLists_decodes (checks : OverflowChecks) {sizes : List Nat}
    {lists : List (Option (List Int))}
    (each : List.Forall₂ (fun size list => ∀ deltas ∈ list, EndsScale size 8 deltas ∧
      ∀ delta ∈ deltas, SmallSigned delta) sizes lists) :
    Decodes (skipScalingLists checks sizes) (lists.flatMap scalingListBits) () := by
  induction each with
  | nil => exact Decodes.pure ()
  | @cons size list sizes lists here rest ih =>
      rw [List.flatMap_cons, scalingListBits, List.append_assoc]
      refine (Decodes.readBit list.isSome).bind ?_
      cases list with
      | none => exact (Decodes.pure none).bind ih
      | some deltas =>
          have complete := here deltas rfl
          have skipped := skipScalingList_decodes checks ⟨by decide, by decide⟩ rfl complete.1 complete.2
          exact (skipped.map some).bind ih

theorem scalingListSizes_eq (chromaFormatIdc : Nat) :
    scalingListSizes chromaFormatIdc = listSizes chromaFormatIdc := by
  unfold scalingListSizes listSizes
  by_cases three : chromaFormatIdc = 3
  · rw [if_neg (not_not_intro three), if_pos three]
    rfl
  · rw [if_pos three, if_neg three]
    rfl

theorem ExtensionFields.decodes (checks : OverflowChecks) {fields : ExtensionFields}
    (fits : fields.Fits) : Decodes (SpsExtended.parse checks) fields.bits fields.value := by
  have three := small_beq fits.chromaFormatIdc 3
  obtain ⟨value, planeRead⟩ := decodes_conditional (fields.chromaFormatIdc = 3)
    (Decodes.readBit fields.separateColourPlane)
  refine (decodes_ue checks fits.chromaFormatIdc).bind ?_
  rw [three, toNat_small fits.chromaFormatIdc, scalingListSizes_eq]
  refine planeRead.bind ?_
  refine (decodes_ue checks fits.bitDepthLumaMinus8).bind ?_
  refine (decodes_ue checks fits.bitDepthChromaMinus8).bind ?_
  refine (Decodes.readBit fields.qpprimeYZeroTransformBypass).bind ?_
  refine (Decodes.readBit fields.scalingMatrix.isSome).bind ?_
  cases found : fields.scalingMatrix with
  | none => exact (Decodes.pure none).finish (Decodes.pure _)
  | some lists =>
      have skipped := skipScalingLists_decodes checks (fits.scalingMatrix lists found)
      exact (skipped.map some).finish (Decodes.pure _)

/-! ## Pictures -/

/-- How the order of pictures is counted. -/
inductive PicOrderCnt where
  | lsb (log2MaxPicOrderCntLsbMinus4 : Nat)
  | cycle (deltaPicOrderAlwaysZero : Bool) (offsetForNonRefPic offsetForTopToBottomField : Int)
      (offsetsForRefFrame : List Int)
  | implied (picOrderCntType : Nat)

namespace PicOrderCnt

def bits : PicOrderCnt → List Bool
  | .lsb log2MaxPicOrderCntLsbMinus4 => ueBits 0 ++ ueBits log2MaxPicOrderCntLsbMinus4
  | .cycle deltaPicOrderAlwaysZero offsetForNonRefPic offsetForTopToBottomField offsets =>
      ueBits 1 ++ ([deltaPicOrderAlwaysZero] ++ (seBits offsetForNonRefPic ++
      (seBits offsetForTopToBottomField ++ (ueBits offsets.length ++ offsets.flatMap seBits))))
  | .implied picOrderCntType => ueBits picOrderCntType

def Fits : PicOrderCnt → Prop
  | .lsb log2MaxPicOrderCntLsbMinus4 => log2MaxPicOrderCntLsbMinus4 < 2 ^ 32
  | .cycle _ offsetForNonRefPic offsetForTopToBottomField offsets =>
      SmallSigned offsetForNonRefPic ∧ SmallSigned offsetForTopToBottomField ∧
        offsets.length < 2 ^ 32 ∧ ∀ offset ∈ offsets, SmallSigned offset
  | .implied picOrderCntType => 2 ≤ picOrderCntType ∧ picOrderCntType < 2 ^ 32

theorem decodes (checks : OverflowChecks) {order : PicOrderCnt} (fits : order.Fits) :
    Decodes (skipPicOrderCnt checks) order.bits () := by
  cases order with
  | lsb number =>
      refine (decodes_ue checks (by decide)).bind ?_
      rw [if_pos (by decide)]
      exact (decodes_ue checks fits).finish (Decodes.pure ())
  | cycle zero first second offsets =>
      obtain ⟨firstSmall, secondSmall, count, small⟩ := fits
      refine (decodes_ue checks (by decide)).bind ?_
      rw [if_neg (by decide), if_pos (by decide)]
      refine (Decodes.skipBits (List.length_singleton)).bind ?_
      refine (decodes_se checks firstSmall).bind ?_
      refine (decodes_se checks secondSmall).bind ?_
      refine (decodes_ue checks count).bind ?_
      rw [toNat_small count]
      exact (Decodes.repeatedly fun offset member => decodes_se checks (small offset member)).finish
        (Decodes.pure ())
  | implied type =>
      obtain ⟨several, small⟩ := fits
      have apart (other : UInt64) (few : other.toNat < 2) : UInt64.ofNat type ≠ other := by
        intro same
        rw [← same, toNat_small small] at few
        omega
      refine (decodes_ue checks small).finish ?_
      rw [if_neg (apart 0 (by decide)), if_neg (apart 1 (by decide))]
      exact Decodes.pure ()

end PicOrderCnt

structure CroppingFields where
  left : Nat
  right : Nat
  top : Nat
  bottom : Nat

namespace CroppingFields

def bits (fields : CroppingFields) : List Bool :=
  ueBits fields.left ++ (ueBits fields.right ++ (ueBits fields.top ++ ueBits fields.bottom))

structure Fits (fields : CroppingFields) : Prop where
  left : fields.left < 2 ^ 32
  right : fields.right < 2 ^ 32
  top : fields.top < 2 ^ 32
  bottom : fields.bottom < 2 ^ 32

def value (fields : CroppingFields) : Cropping :=
  ⟨UInt64.ofNat fields.left, UInt64.ofNat fields.right, UInt64.ofNat fields.top,
    UInt64.ofNat fields.bottom⟩

theorem decodes (checks : OverflowChecks) {fields : CroppingFields} (fits : fields.Fits) :
    Decodes (readCropping checks) fields.bits fields.value := by
  refine (decodes_ue checks fits.left).bind ?_
  refine (decodes_ue checks fits.right).bind ?_
  refine (decodes_ue checks fits.top).bind ?_
  exact (decodes_ue checks fits.bottom).finish (Decodes.pure _)

end CroppingFields

/-! ## Usability information -/

structure AspectRatio where
  aspectRatioIdc : UInt8
  sarWidth : UInt16
  sarHeight : UInt16

namespace AspectRatio

def bits (ratio : AspectRatio) : List Bool :=
  byteBits ratio.aspectRatioIdc ++ (if ratio.aspectRatioIdc = 255
    then bytesBits (beU16 ratio.sarWidth) ++ bytesBits (beU16 ratio.sarHeight) else [])

theorem decodes (ratio : AspectRatio) : Decodes skipAspectRatio ratio.bits () := by
  refine (Decodes.readU8 ratio.aspectRatioIdc).bind ?_
  by_cases extended : ratio.aspectRatioIdc = 255
  · have width : (bytesBits (beU16 ratio.sarWidth)).length = 16 := by
      rw [length_bytesBits, length_beU16]
    have height : (bytesBits (beU16 ratio.sarHeight)).length = 16 := by
      rw [length_bytesBits, length_beU16]
    rw [if_pos extended, beq_iff_eq.mpr extended]
    exact (((Decodes.skipBits width).bind (Decodes.skipBits height)).map some).finish
      (Decodes.pure ())
  · rw [if_neg extended, beq_false_of_ne extended]
    exact (Decodes.pure none).finish (Decodes.pure ())

end AspectRatio

structure VideoSignal where
  videoFormat : Nat
  fullRange : Bool
  description : Option (UInt8 × UInt8 × UInt8)

namespace VideoSignal

def bits (signal : VideoSignal) : List Bool :=
  toBits 3 signal.videoFormat ++ ([signal.fullRange] ++ ([signal.description.isSome] ++
  signal.description.elim [] fun (colorPrimaries, transferCharacteristics, matrixCoefficients) =>
    byteBits colorPrimaries ++ (byteBits transferCharacteristics ++ byteBits matrixCoefficients)))

/-- Colours that are not described are unspecified, which is 2. -/
def value (signal : VideoSignal) : ColorConfig :=
  match signal.description with
  | some (colorPrimaries, transferCharacteristics, matrixCoefficients) =>
      ⟨signal.fullRange, colorPrimaries, transferCharacteristics, matrixCoefficients⟩
  | none => ⟨signal.fullRange, 2, 2, 2⟩

theorem decodes (signal : VideoSignal) : Decodes readColorConfig signal.bits signal.value := by
  obtain ⟨format, range, description⟩ := signal
  refine (Decodes.skipBits (length_toBits 3 _)).bind ?_
  refine (Decodes.readBit range).bind ?_
  refine (Decodes.readBit description.isSome).bind ?_
  cases description with
  | none => exact (Decodes.pure none).finish (Decodes.pure _)
  | some triple =>
      obtain ⟨primaries, transfer, matrix⟩ := triple
      have read : Decodes readColorDescription
          (byteBits primaries ++ (byteBits transfer ++ byteBits matrix))
          (primaries, transfer, matrix) :=
        (Decodes.readU8 primaries).bind ((Decodes.readU8 transfer).bind
          ((Decodes.readU8 matrix).finish (Decodes.pure _)))
      exact (read.map some).finish (Decodes.pure _)

end VideoSignal

structure Timing where
  numUnitsInTick : UInt32
  timeScale : UInt32

namespace Timing

def bits (timing : Timing) : List Bool :=
  bytesBits (beU32 timing.numUnitsInTick) ++ bytesBits (beU32 timing.timeScale)

theorem decodes {timing : Timing} (ticks : timing.numUnitsInTick ≠ 0) :
    Decodes readFrameRate timing.bits (frameRateOf timing.timeScale timing.numUnitsInTick) := by
  refine (Decodes.readU32 timing.numUnitsInTick).bind ?_
  refine (Decodes.readU32 timing.timeScale).finish ?_
  rw [beq_false_of_ne ticks, refuse_false]
  exact Decodes.pure _

end Timing

structure Vui where
  aspectRatio : Option AspectRatio
  overscanAppropriate : Option Bool
  videoSignal : Option VideoSignal
  chromaLocation : Option (Nat × Nat)
  timing : Option Timing

namespace Vui

def bits (vui : Vui) : List Bool :=
  [vui.aspectRatio.isSome] ++ (vui.aspectRatio.elim [] AspectRatio.bits ++
  ([vui.overscanAppropriate.isSome] ++ (vui.overscanAppropriate.elim [] (fun bit => [bit]) ++
  ([vui.videoSignal.isSome] ++ (vui.videoSignal.elim [] VideoSignal.bits ++
  ([vui.chromaLocation.isSome] ++ (vui.chromaLocation.elim []
    (fun (top, bottom) => ueBits top ++ ueBits bottom) ++
  ([vui.timing.isSome] ++ vui.timing.elim [] Timing.bits))))))))

structure Fits (vui : Vui) : Prop where
  chromaLocation : ∀ location ∈ vui.chromaLocation, location.1 < 2 ^ 32 ∧ location.2 < 2 ^ 32
  timing : ∀ timing ∈ vui.timing, timing.numUnitsInTick ≠ 0

def colorConfig (vui : Vui) : Option ColorConfig := vui.videoSignal.map VideoSignal.value

def frameRate (vui : Vui) : Float :=
  (vui.timing.map fun timing => frameRateOf timing.timeScale timing.numUnitsInTick).getD 0.0

theorem decodes (checks : OverflowChecks) {vui : Vui} (fits : vui.Fits) :
    Decodes (readVui checks) vui.bits (vui.colorConfig, vui.frameRate) := by
  refine (Decodes.readBit vui.aspectRatio.isSome).bind ?_
  refine (decodes_optional fun ratio _ => ratio.decodes).bind ?_
  refine (Decodes.readBit vui.overscanAppropriate.isSome).bind ?_
  refine (decodes_optional fun bit _ => Decodes.skipBits List.length_singleton).bind ?_
  refine (Decodes.readBit vui.videoSignal.isSome).bind ?_
  refine (decodes_optional fun signal _ => signal.decodes).bind ?_
  refine (Decodes.readBit vui.chromaLocation.isSome).bind ?_
  have location : ∀ inner ∈ vui.chromaLocation, Decodes (skipChromaLocation checks)
      (ueBits inner.1 ++ ueBits inner.2) () := fun inner member =>
    (decodes_ue checks (fits.chromaLocation inner member).1).bind
      ((decodes_ue checks (fits.chromaLocation inner member).2).finish (Decodes.pure ()))
  refine (decodes_optional location).bind ?_
  refine (Decodes.readBit vui.timing.isSome).bind ?_
  refine (decodes_optional fun timing member => Timing.decodes (fits.timing timing member)).finish ?_
  exact Decodes.pure _

end Vui

/-! ## The parameter set -/

structure SpsFields where
  nalRefIdc : Nat
  profileIdc : UInt8
  constraintSetFlags : UInt8
  levelIdc : UInt8
  seqParameterSetId : Nat
  extension : Option ExtensionFields
  log2MaxFrameNumMinus4 : Nat
  picOrderCnt : PicOrderCnt
  maxNumRefFrames : Nat
  gapsInFrameNumValueAllowed : Bool
  picWidthInMbsMinus1 : Nat
  picHeightInMapUnitsMinus1 : Nat
  frameMbsOnly : Bool
  mbAdaptiveFrameField : Bool
  direct8x8Inference : Bool
  cropping : Option CroppingFields
  vui : Option Vui

namespace SpsFields

def headerBits (fields : SpsFields) : List Bool :=
  [false] ++ (toBits 2 fields.nalRefIdc ++ toBits 5 7)

def sizeBits (fields : SpsFields) : List Bool :=
  ueBits fields.picWidthInMbsMinus1 ++ (ueBits fields.picHeightInMapUnitsMinus1 ++
  ([fields.frameMbsOnly] ++ ((if fields.frameMbsOnly then [] else [fields.mbAdaptiveFrameField]) ++
  ([fields.direct8x8Inference] ++ ([fields.cropping.isSome] ++
  fields.cropping.elim [] CroppingFields.bits)))))

/-- The header of the unit and the fields up to the size of the picture. -/
def frontBits (fields : SpsFields) : List Bool :=
  fields.headerBits ++ (byteBits fields.profileIdc ++ (byteBits fields.constraintSetFlags ++
  (byteBits fields.levelIdc ++ (ueBits fields.seqParameterSetId ++
  (fields.extension.elim [] ExtensionFields.bits ++ (ueBits fields.log2MaxFrameNumMinus4 ++
  (fields.picOrderCnt.bits ++ (ueBits fields.maxNumRefFrames ++
  ([fields.gapsInFrameNumValueAllowed] ++ fields.sizeBits)))))))))

/-- The fields up to the timing information. -/
def bits (fields : SpsFields) : List Bool :=
  fields.frontBits ++ ([fields.vui.isSome] ++ fields.vui.elim [] Vui.bits)

/-- Every number is below 32 bits, exactly the profiles that have an extension show one, and a
tick is not empty. -/
structure Fits (fields : SpsFields) : Prop where
  seqParameterSetId : fields.seqParameterSetId < 2 ^ 32
  extended : fields.extension.isSome = hasExtension fields.profileIdc
  extension : ∀ extension ∈ fields.extension, extension.Fits
  log2MaxFrameNumMinus4 : fields.log2MaxFrameNumMinus4 < 2 ^ 32
  picOrderCnt : fields.picOrderCnt.Fits
  maxNumRefFrames : fields.maxNumRefFrames < 2 ^ 32
  picWidthInMbsMinus1 : fields.picWidthInMbsMinus1 < 2 ^ 32
  picHeightInMapUnitsMinus1 : fields.picHeightInMapUnitsMinus1 < 2 ^ 32
  cropping : ∀ cropping ∈ fields.cropping, cropping.Fits
  vui : ∀ vui ∈ fields.vui, vui.Fits

/-- Without cropping the offsets are zero. -/
def crop (fields : SpsFields) : CroppingFields := fields.cropping.getD ⟨0, 0, 0, 0⟩

def picWidthInSamples (fields : SpsFields) : Nat := (fields.picWidthInMbsMinus1 + 1) * 16

def frameHeight (fields : SpsFields) : Nat :=
  (2 - fields.frameMbsOnly.toNat) * (fields.picHeightInMapUnitsMinus1 + 1) * 16

def colorConfig (fields : SpsFields) : Option ColorConfig := fields.vui.bind Vui.colorConfig

def frameRate (fields : SpsFields) : Float := (fields.vui.map Vui.frameRate).getD 0.0

/-- What the reader makes of the fields, with the size that it computes. -/
def value (fields : SpsFields) (width height : Nat) : Sps :=
  ⟨fields.profileIdc, fields.levelIdc, fields.extension.map ExtensionFields.value,
    UInt64.ofNat width, UInt64.ofNat height, fields.frameRate, fields.colorConfig⟩

theorem crop_fits {fields : SpsFields} (fits : fields.Fits) : fields.crop.Fits := by
  unfold crop
  cases found : fields.cropping with
  | none => exact ⟨by decide, by decide, by decide, by decide⟩
  | some cropping => exact fits.cropping cropping found

theorem readHeader_decodes (fields : SpsFields) : Decodes Sps.readHeader fields.headerBits () := by
  refine (Decodes.readBit false).bind ?_
  rw [refuse_false]
  refine (Decodes.skipBits (length_toBits 2 _)).bind ?_
  exact (Decodes.readBits (by decide) (by decide)).finish (Decodes.pure ())

def picture (fields : SpsFields) : PictureFields :=
  ⟨UInt64.ofNat fields.picWidthInMbsMinus1, UInt64.ofNat fields.picHeightInMapUnitsMinus1,
    fields.frameMbsOnly, fields.crop.value⟩

theorem readPictureFields_decodes (checks : OverflowChecks) {fields : SpsFields}
    (fits : fields.Fits) : Decodes (readPictureFields checks) fields.sizeBits fields.picture := by
  refine (decodes_ue checks fits.picWidthInMbsMinus1).bind ?_
  refine (decodes_ue checks fits.picHeightInMapUnitsMinus1).bind ?_
  refine (Decodes.readBit fields.frameMbsOnly).bind ?_
  have adaptive : ∃ value, Decodes (optionally (!fields.frameMbsOnly) (skipBits 1))
      (if fields.frameMbsOnly then [] else [fields.mbAdaptiveFrameField]) value := by
    cases fields.frameMbsOnly with
    | true => exact ⟨_, Decodes.pure none⟩
    | false => exact ⟨_, (Decodes.skipBits List.length_singleton).map some⟩
  obtain ⟨value, skipped⟩ := adaptive
  refine skipped.bind ?_
  refine (Decodes.skipBits List.length_singleton).bind ?_
  refine (Decodes.readBit fields.cropping.isSome).bind ?_
  refine (decodes_optional fun cropping member =>
    CroppingFields.decodes checks (fits.cropping cropping member)).finish ?_
  have offsets : (fields.cropping.map CroppingFields.value).getD ⟨0, 0, 0, 0⟩ = fields.crop.value := by
    unfold crop
    cases fields.cropping <;> rfl
  rw [offsets]
  exact Decodes.pure _

theorem readFront_decodes (checks : OverflowChecks) {fields : SpsFields} (fits : fields.Fits) :
    Decodes (Sps.readFront checks) fields.frontBits (fields.profileIdc, fields.levelIdc,
      fields.extension.map ExtensionFields.value, fields.picture) := by
  refine fields.readHeader_decodes.bind ?_
  refine (Decodes.readU8 fields.profileIdc).bind ?_
  refine (Decodes.skipBits (length_toBits 8 _)).bind ?_
  refine (Decodes.readU8 fields.levelIdc).bind ?_
  refine (decodes_ue checks fits.seqParameterSetId).bind ?_
  rw [← fits.extended]
  refine (decodes_optional fun extension member =>
    ExtensionFields.decodes checks (fits.extension extension member)).bind ?_
  refine (decodes_ue checks fits.log2MaxFrameNumMinus4).bind ?_
  refine (PicOrderCnt.decodes checks fits.picOrderCnt).bind ?_
  refine (decodes_ue checks fits.maxNumRefFrames).bind ?_
  refine (Decodes.readBit fields.gapsInFrameNumValueAllowed).bind ?_
  exact (readPictureFields_decodes checks fits).finish (Decodes.pure _)

theorem read_decodes (checks : OverflowChecks) {fields : SpsFields} (fits : fields.Fits)
    {width height : Nat} (size : computeSize checks fields.picture = pure (width, height)) :
    Decodes (Sps.read checks) fields.bits (fields.value width height) := by
  refine (readFront_decodes checks fits).bind ?_
  dsimp only
  rw [between_bind size]
  refine (Decodes.readBit fields.vui.isSome).bind ?_
  refine (decodes_optional fun vui member => Vui.decodes checks (fits.vui vui member)).finish ?_
  unfold value colorConfig frameRate
  cases fields.vui with
  | none => exact Decodes.pure _
  | some vui => exact Decodes.pure _

theorem read_fails (checks : OverflowChecks) {fields : SpsFields} (fits : fields.Fits)
    {fault : IoFault} (size : computeSize checks fields.picture = Reader.fail fault) :
    Fails (Sps.read checks) fields.bits fault := by
  refine (readFront_decodes checks fits).bindFails ?_
  dsimp only
  rw [size]
  exact fun _ _ _ _ _ _ _ => rfl

end SpsFields

end ScuffleVideo.H264
