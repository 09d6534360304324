import ScuffleVideo.H264.SpsSafety
import ScuffleVideo.H265.Sps

/-!
# Units on which the HEVC parser panics

With overflow checks the parser panics where a number leaves its range: in codes, in the window of
the picture, in scaling lists and in the counts of reference picture sets.  The vector for these
sets has the length that was read, so that a unit is safe only if the parser refuses it before.
-/

namespace ScuffleVideo.H265

open Wire BitReader

/-! ## Profile, tier and level -/

def walkSubLayers : List Bool → Walk Unit
  | [] => pure ()
  | levelPresent :: flags => do
      Walk.skip 88
      let _ ← Walk.optionally levelPresent (Walk.skip 8)
      walkSubLayers flags

def walkSubLayersFlags (maxSubLayersMinus1 : Nat) : Walk (List Bool) := do
  Walk.skip 96
  let levelPresent ← Walk.repeatedly (do Walk.skip 1; Walk.bit) maxSubLayersMinus1
  let _ ← Walk.optionally (0 < maxSubLayersMinus1 && maxSubLayersMinus1 < 8)
    (Walk.skip (2 * (8 - maxSubLayersMinus1)))
  return levelPresent

def walkProfileTierLevel (maxSubLayersMinus1 : Nat) : Walk Unit := do
  let levelPresent ← walkSubLayersFlags maxSubLayersMinus1
  walkSubLayers levelPresent

theorem follows_subLayers (flags : List Bool) : Follows (skipSubLayers flags) (walkSubLayers flags) := by
  induction flags with
  | nil => exact .pure ()
  | cons levelPresent flags ih =>
      refine (Follows.skipBits (by decide)).bind fun _ => ?_
      exact ((Follows.skipBits (by decide)).optionally levelPresent).bind fun _ => ih

theorem follows_subLayersFlags (maxSubLayersMinus1 : Nat) :
    Follows (readSubLayersFlags maxSubLayersMinus1) (walkSubLayersFlags maxSubLayersMinus1) := by
  have flags : Follows readSubLayerFlags (do Walk.skip 1; Walk.bit) :=
    (Follows.skipBits (by decide)).bind fun _ => Follows.readBit
  refine (Follows.skipBits (by decide)).bind fun _ => ?_
  refine (flags.repeatedly maxSubLayersMinus1).bind fun levelPresent => ?_
  by_cases few : maxSubLayersMinus1 < 8
  · exact ((Follows.skipBits (by omega)).optionally _).bind fun _ => .pure levelPresent
  · rw [decide_eq_false few, Bool.and_false]
    exact (Follows.pure none).bind fun _ => .pure levelPresent

theorem follows_profileTierLevel (maxSubLayersMinus1 : Nat) :
    Follows (skipProfileTierLevel maxSubLayersMinus1) (walkProfileTierLevel maxSubLayersMinus1) :=
  (follows_subLayersFlags maxSubLayersMinus1).bind follows_subLayers

/-! ## Pictures -/

def walkConformanceWindow : Walk ConformanceWindow := do
  let left ← Walk.expGolomb
  let right ← Walk.expGolomb
  let top ← Walk.expGolomb
  let bottom ← Walk.expGolomb
  return ⟨left, right, top, bottom⟩

def walkPictureFields : Walk PictureFields := do
  let chromaFormatIdc ← Walk.expGolomb
  let _ ← Walk.optionally (chromaFormatIdc == 3) Walk.bit
  let picWidthInLumaSamples ← Walk.expGolomb
  let picHeightInLumaSamples ← Walk.expGolomb
  let conformanceWindowFlag ← Walk.bit
  let window ← Walk.optionally conformanceWindowFlag walkConformanceWindow
  return ⟨chromaFormatIdc, picWidthInLumaSamples, picHeightInLumaSamples,
    window.getD ⟨0, 0, 0, 0⟩⟩

/-- The offsets in samples are a 64-bit number and can be taken from the size. -/
def walkCropped (size factor : Nat) (first second : UInt64) : Walk Nat := do
  let offsets ← Walk.u64 (first.toNat + second.toNat)
  let cut ← Walk.u64 (factor * offsets)
  Walk.u64 (size - cut)

def walkSize (picture : PictureFields) : Walk (Nat × Nat) :=
  match subSampling picture.chromaFormatIdc.toNat with
  | none => Walk.stop
  | some (subWidthC, subHeightC) => do
      let width ← walkCropped picture.picWidthInLumaSamples.toNat subWidthC
        picture.window.left picture.window.right
      let height ← walkCropped picture.picHeightInLumaSamples.toNat subHeightC
        picture.window.top picture.window.bottom
      return (width, height)

theorem follows_conformanceWindow : Follows (readConformanceWindow .on) walkConformanceWindow := by
  refine Follows.readExpGolomb.bind fun left => ?_
  refine Follows.readExpGolomb.bind fun right => ?_
  refine Follows.readExpGolomb.bind fun top => ?_
  exact Follows.readExpGolomb.bind fun bottom => .pure _

theorem follows_pictureFields : Follows (readPictureFields .on) walkPictureFields := by
  refine Follows.readExpGolomb.bind fun chromaFormatIdc => ?_
  refine (Follows.readBit.optionally _).bind fun _ => ?_
  refine Follows.readExpGolomb.bind fun picWidthInLumaSamples => ?_
  refine Follows.readExpGolomb.bind fun picHeightInLumaSamples => ?_
  refine Follows.readBit.bind fun conformanceWindowFlag => ?_
  exact (follows_conformanceWindow.optionally conformanceWindowFlag).bind fun window => .pure _

theorem follows_cropped (size factor : Nat) (first second : UInt64) :
    Follows (between (cropped .on size factor first second)) (walkCropped size factor first second) := by
  refine (Follows.asU64 _).betweenBind fun offsets => ?_
  exact (Follows.asU64 _).betweenBind fun cut => Follows.asU64 _

theorem follows_size (picture : PictureFields) :
    Follows (between (computeSize .on picture)) (walkSize picture) := by
  unfold computeSize walkSize
  cases subSampling picture.chromaFormatIdc.toNat with
  | none => exact Follows.fail rfl
  | some units =>
      exact (follows_cropped _ _ _ _).betweenBind fun width =>
        (follows_cropped _ _ _ _).betweenBind fun height => .betweenPure _

/-! ## Coding tools -/

def walkOrderingTriplet : Walk Unit := do
  let _ ← Walk.expGolomb
  let _ ← Walk.expGolomb
  let _ ← Walk.expGolomb
  return ()

/-- The coefficient stays in a signed 64-bit number until it is reduced. -/
def walkCoefficients : Nat → Int → Walk Unit
  | 0, _ => pure ()
  | count + 1, nextCoef => do
      let scalingListDeltaCoef ← Walk.signedExpGolomb
      let sum ← Walk.i64 (nextCoef + scalingListDeltaCoef)
      let raised ← Walk.i64 (sum + 256)
      walkCoefficients count (raised.tmod 256)

def walkFirstCoefficient : Walk Int := do
  let scalingListDcCoefMinus8 ← Walk.signedExpGolomb
  Walk.i64 (8 + scalingListDcCoefMinus8)

def walkScalingList (sizeId : Nat) : Walk Unit := do
  let scalingListPredModeFlag ← Walk.bit
  if scalingListPredModeFlag then do
    let firstCoef ← Walk.optionally (1 < sizeId) walkFirstCoefficient
    walkCoefficients (min 64 (2 ^ (4 + 2 * sizeId))) (firstCoef.getD 8)
  else do
    let _ ← Walk.expGolomb
    return ()

def walkScalingLists : List Nat → Walk Unit
  | [] => pure ()
  | sizeId :: sizeIds => do
      let _ ← Walk.repeatedly (walkScalingList sizeId) (if sizeId = 3 then 2 else 6)
      walkScalingLists sizeIds

def walkScalingListData : Walk Unit := do
  let spsScalingListDataPresentFlag ← Walk.bit
  let _ ← Walk.optionally spsScalingListDataPresentFlag (walkScalingLists [0, 1, 2, 3])
  return ()

def walkPcm : Walk Unit := do
  Walk.skip 4
  Walk.skip 4
  let _ ← Walk.expGolomb
  let _ ← Walk.expGolomb
  Walk.skip 1

theorem follows_orderingTriplet : Follows (skipOrderingTriplet .on) walkOrderingTriplet := by
  refine Follows.readExpGolomb.bind fun _ => ?_
  refine Follows.readExpGolomb.bind fun _ => ?_
  exact Follows.readExpGolomb.bind fun _ => .pure ()

theorem follows_coefficients (count : Nat) (nextCoef : Int) :
    Follows (skipCoefficients .on count nextCoef) (walkCoefficients count nextCoef) := by
  induction count generalizing nextCoef with
  | zero => exact .pure ()
  | succ count ih =>
      refine Follows.readSignedExpGolomb.bind fun scalingListDeltaCoef => ?_
      refine (Follows.asI64 _).bind fun sum => ?_
      exact (Follows.asI64 _).bind fun raised => ih _

theorem follows_scalingList (sizeId : Nat) :
    Follows (skipScalingList .on sizeId) (walkScalingList sizeId) := by
  have first : Follows (readFirstCoefficient .on) walkFirstCoefficient :=
    Follows.readSignedExpGolomb.bind fun _ => Follows.asI64 _
  refine Follows.readBit.bind fun scalingListPredModeFlag => ?_
  refine .ite ?_ (Follows.readExpGolomb.bind fun _ => .pure ())
  exact (first.optionally _).bind fun firstCoef => follows_coefficients _ _

theorem follows_scalingLists (sizeIds : List Nat) :
    Follows (skipScalingLists .on sizeIds) (walkScalingLists sizeIds) := by
  induction sizeIds with
  | nil => exact .pure ()
  | cons sizeId sizeIds ih => exact ((follows_scalingList sizeId).repeatedly _).bind fun _ => ih

theorem follows_scalingListData : Follows (skipScalingListData .on) walkScalingListData := by
  refine Follows.readBit.bind fun spsScalingListDataPresentFlag => ?_
  exact ((follows_scalingLists _).optionally spsScalingListDataPresentFlag).bind fun _ => .pure ()

theorem follows_pcm : Follows (skipPcm .on) walkPcm := by
  refine (Follows.skipBits (by decide)).bind fun _ => ?_
  refine (Follows.skipBits (by decide)).bind fun _ => ?_
  refine Follows.readExpGolomb.bind fun _ => ?_
  exact Follows.readExpGolomb.bind fun _ => Follows.skipBits (by decide)

/-! ## Reference pictures -/

/-- The vector for the sets has to be small enough for an offset. -/
def walkAllocation (count : Nat) : Walk Unit := Walk.require (8 * count < 2 ^ 63)

def walkKept : Walk Bool := do
  let usedByCurrPicFlag ← Walk.bit
  if usedByCurrPicFlag then return true else Walk.bit

def walkCountKept : Nat → Nat → Walk Nat
  | 0, total => pure total
  | count + 1, total => do
      let kept ← walkKept
      let total ← if kept then Walk.u64 (total + 1) else pure total
      walkCountKept count total

def walkPredictedSet (previous : Nat) : Walk Nat := do
  Walk.skip 1
  let _ ← Walk.expGolomb
  walkCountKept previous 0

def walkPicture : Walk Unit := do
  let _ ← Walk.expGolomb
  Walk.skip 1

/-- The pictures before and behind are together a 64-bit number. -/
def walkExplicitSet : Walk Nat := do
  let numNegativePics ← Walk.expGolomb
  let numPositivePics ← Walk.expGolomb
  let total ← Walk.u64 (numNegativePics.toNat + numPositivePics.toNat)
  let _ ← Walk.repeatedly walkPicture numNegativePics.toNat
  let _ ← Walk.repeatedly walkPicture numPositivePics.toNat
  return total

def walkRefPicSet (previous : Option Nat) : Walk Nat := do
  let predicted ← Walk.optionally previous.isSome Walk.bit
  if predicted.getD false then walkPredictedSet (previous.getD 0) else walkExplicitSet

def walkRefPicSets : Nat → Option Nat → Walk Unit
  | 0, _ => pure ()
  | count + 1, previous => do
      let numDeltaPocs ← walkRefPicSet previous
      walkRefPicSets count (some numDeltaPocs)

def walkLongTermRefPics : Walk Unit := do
  let numLongTermRefPicsSps ← Walk.expGolomb
  let _ ← Walk.repeatedly walkPicture numLongTermRefPicsSps.toNat
  return ()

theorem follows_allocation (count : Nat) : Follows (between (allocate count)) (walkAllocation count) := by
  intro buffer position state bit standing
  unfold allocate walkAllocation
  by_cases small : 8 * count < 2 ^ 63
  · rw [if_pos small]
    exact .inl ⟨(), state, position, bit, rfl, standing, fun next => and_iff_right small⟩
  · rw [if_neg small]
    exact .inr (.inr ⟨.panic, rfl, rfl, fun next walked => small walked.1⟩)

theorem follows_kept : Follows readKept walkKept :=
  Follows.readBit.bind fun _ => .ite (.pure true) Follows.readBit

theorem follows_countKept (count total : Nat) :
    Follows (countKept .on count total) (walkCountKept count total) := by
  induction count generalizing total with
  | zero => exact .pure total
  | succ count ih =>
      refine follows_kept.bind fun kept => ?_
      dsimp only
      exact .ite ((Follows.asU64 _).bind ih) ((Follows.pure total).bind ih)

theorem follows_predictedSet (previous : Nat) :
    Follows (readPredictedSet .on previous) (walkPredictedSet previous) := by
  refine (Follows.skipBits (by decide)).bind fun _ => ?_
  exact Follows.readExpGolomb.bind fun _ => follows_countKept previous 0

theorem follows_picture : Follows (skipPicture .on) walkPicture :=
  Follows.readExpGolomb.bind fun _ => Follows.skipBits (by decide)

theorem follows_explicitSet : Follows (readExplicitSet .on) walkExplicitSet := by
  refine Follows.readExpGolomb.bind fun numNegativePics => ?_
  refine Follows.readExpGolomb.bind fun numPositivePics => ?_
  refine (Follows.asU64 _).bind fun total => ?_
  refine (follows_picture.repeatedly numNegativePics.toNat).bind fun _ => ?_
  exact (follows_picture.repeatedly numPositivePics.toNat).bind fun _ => .pure total

theorem follows_refPicSet (previous : Option Nat) :
    Follows (readRefPicSet .on previous) (walkRefPicSet previous) := by
  refine (Follows.readBit.optionally previous.isSome).bind fun predicted => ?_
  exact .ite (follows_predictedSet (previous.getD 0)) follows_explicitSet

theorem follows_refPicSets (count : Nat) (previous : Option Nat) :
    Follows (skipRefPicSets .on count previous) (walkRefPicSets count previous) := by
  induction count generalizing previous with
  | zero => exact .pure ()
  | succ count ih => exact (follows_refPicSet previous).bind fun numDeltaPocs => ih (some numDeltaPocs)

theorem follows_longTermRefPics : Follows (skipLongTermRefPics .on) walkLongTermRefPics := by
  refine Follows.readExpGolomb.bind fun numLongTermRefPicsSps => ?_
  exact (follows_picture.repeatedly numLongTermRefPicsSps.toNat).bind fun _ => .pure ()

/-! ## Usability information -/

def walkAspectRatio : Walk Unit := do
  let aspectRatioIdc ← Walk.number 8
  let _ ← Walk.optionally (aspectRatioIdc == 255) do
    Walk.skip 16
    Walk.skip 16
  return ()

def walkColorDescription : Walk (UInt8 × UInt8 × UInt8) := do
  let colorPrimaries ← Walk.u8
  let transferCharacteristics ← Walk.u8
  let matrixCoefficients ← Walk.u8
  return (colorPrimaries, transferCharacteristics, matrixCoefficients)

def walkColorConfig : Walk ColorConfig := do
  Walk.skip 3
  let fullRange ← Walk.bit
  let described ← Walk.bit
  let description ← Walk.optionally described walkColorDescription
  let (colorPrimaries, transferCharacteristics, matrixCoefficients) := description.getD (2, 2, 2)
  return ⟨fullRange, colorPrimaries, transferCharacteristics, matrixCoefficients⟩

def walkChromaLocation : Walk Unit := do
  let _ ← Walk.expGolomb
  let _ ← Walk.expGolomb
  return ()

def walkDefaultDisplayWindow : Walk Unit := do
  let _ ← walkConformanceWindow
  return ()

def walkFrameRate : Walk Float := do
  let numUnitsInTick ← Walk.number 32
  let timeScale ← Walk.number 32
  Walk.refuse (numUnitsInTick == 0)
  return timeScale.toFloat / numUnitsInTick.toFloat

def walkVui : Walk (Option ColorConfig × Float) := do
  let aspectRatio ← Walk.bit
  let _ ← Walk.optionally aspectRatio walkAspectRatio
  let overscanInfo ← Walk.bit
  let _ ← Walk.optionally overscanInfo (Walk.skip 1)
  let videoSignalType ← Walk.bit
  let colorConfig ← Walk.optionally videoSignalType walkColorConfig
  let chromaLocation ← Walk.bit
  let _ ← Walk.optionally chromaLocation walkChromaLocation
  Walk.skip 1
  Walk.skip 1
  Walk.skip 1
  let defaultDisplayWindow ← Walk.bit
  let _ ← Walk.optionally defaultDisplayWindow walkDefaultDisplayWindow
  let timingInfo ← Walk.bit
  let frameRate ← Walk.optionally timingInfo walkFrameRate
  return (colorConfig, frameRate.getD 0.0)

theorem follows_aspectRatio : Follows skipAspectRatio walkAspectRatio := by
  refine (Follows.readBits 8).bind fun aspectRatioIdc => ?_
  exact (((Follows.skipBits (by decide)).bind fun _ => Follows.skipBits (by decide)).optionally
    _).bind fun _ => .pure ()

theorem follows_colorConfig : Follows readColorConfig walkColorConfig := by
  have description : Follows readColorDescription walkColorDescription :=
    Follows.readU8.bind fun _ => Follows.readU8.bind fun _ => Follows.readU8.bind fun _ => .pure _
  refine (Follows.skipBits (by decide)).bind fun _ => ?_
  refine Follows.readBit.bind fun fullRange => ?_
  refine Follows.readBit.bind fun described => ?_
  exact (description.optionally described).bind fun description => .pure _

theorem follows_chromaLocation : Follows (skipChromaLocation .on) walkChromaLocation :=
  Follows.readExpGolomb.bind fun _ => Follows.readExpGolomb.bind fun _ => .pure ()

theorem follows_defaultDisplayWindow :
    Follows (skipDefaultDisplayWindow .on) walkDefaultDisplayWindow :=
  follows_conformanceWindow.bind fun _ => .pure ()

theorem follows_frameRate : Follows readFrameRate walkFrameRate := by
  refine (Follows.readBits 32).bind fun numUnitsInTick => ?_
  refine (Follows.readBits 32).bind fun timeScale => ?_
  exact (Follows.refuse _ _).bind fun _ => .pure _

theorem follows_vui : Follows (readVui .on) walkVui := by
  refine Follows.readBit.bind fun aspectRatio => ?_
  refine (follows_aspectRatio.optionally aspectRatio).bind fun _ => ?_
  refine Follows.readBit.bind fun overscanInfo => ?_
  refine ((Follows.skipBits (by decide)).optionally overscanInfo).bind fun _ => ?_
  refine Follows.readBit.bind fun videoSignalType => ?_
  refine (follows_colorConfig.optionally videoSignalType).bind fun colorConfig => ?_
  refine Follows.readBit.bind fun chromaLocation => ?_
  refine (follows_chromaLocation.optionally chromaLocation).bind fun _ => ?_
  refine (Follows.skipBits (by decide)).bind fun _ => ?_
  refine (Follows.skipBits (by decide)).bind fun _ => ?_
  refine (Follows.skipBits (by decide)).bind fun _ => ?_
  refine Follows.readBit.bind fun defaultDisplayWindow => ?_
  refine (follows_defaultDisplayWindow.optionally defaultDisplayWindow).bind fun _ => ?_
  refine Follows.readBit.bind fun timingInfo => ?_
  exact (follows_frameRate.optionally timingInfo).bind fun frameRate => .pure _

/-! ## The parameter set -/

namespace Sps

def walkHeader : Walk Nat := do
  let forbiddenZeroBit ← Walk.bit
  Walk.refuse forbiddenZeroBit
  let naluType ← Walk.number 6
  Walk.refuse (naluType != 33)
  Walk.skip 13
  let spsMaxSubLayersMinus1 ← Walk.number 3
  Walk.skip 1
  return spsMaxSubLayersMinus1.toNat

def walkTier : Walk Nat := do
  let spsMaxSubLayersMinus1 ← walkHeader
  walkProfileTierLevel spsMaxSubLayersMinus1
  return spsMaxSubLayersMinus1

def walkPictureSize : Walk (Nat × Nat) := do
  let _ ← Walk.expGolomb
  let picture ← walkPictureFields
  let size ← walkSize picture
  let _ ← Walk.expGolomb
  let _ ← Walk.expGolomb
  let _ ← Walk.expGolomb
  return size

def walkOrderingInfo (spsMaxSubLayersMinus1 : Nat) : Walk Unit := do
  let spsSubLayerOrderingInfoPresentFlag ← Walk.bit
  let _ ← Walk.optionally spsSubLayerOrderingInfoPresentFlag
    (Walk.repeatedly walkOrderingTriplet (spsMaxSubLayersMinus1 + 1))
  return ()

def walkOrdering : Walk (Nat × Nat) := do
  let spsMaxSubLayersMinus1 ← walkTier
  let size ← walkPictureSize
  walkOrderingInfo spsMaxSubLayersMinus1
  return size

def walkFront : Walk ((Nat × Nat) × Nat) := do
  let size ← walkOrdering
  let _ ← Walk.repeatedly Walk.expGolomb 6
  let scalingListEnabledFlag ← Walk.bit
  let _ ← Walk.optionally scalingListEnabledFlag walkScalingListData
  Walk.skip 1
  Walk.skip 1
  let pcmEnabledFlag ← Walk.bit
  let _ ← Walk.optionally pcmEnabledFlag walkPcm
  let numShortTermRefPicSets ← Walk.expGolomb
  return (size, numShortTermRefPicSets.toNat)

def walkBack : Walk (Option ColorConfig × Float) := do
  let longTermRefPicsPresentFlag ← Walk.bit
  let _ ← Walk.optionally longTermRefPicsPresentFlag walkLongTermRefPics
  Walk.skip 1
  Walk.skip 1
  let vuiParametersPresentFlag ← Walk.bit
  let vui ← Walk.optionally vuiParametersPresentFlag walkVui
  return vui.getD (none, 0.0)

def walk : Walk Sps := do
  let ((width, height), numShortTermRefPicSets) ← walkFront
  let _ ← walkAllocation numShortTermRefPicSets
  walkRefPicSets numShortTermRefPicSets none
  let (colorConfig, frameRate) ← walkBack
  return ⟨UInt64.ofNat width, UInt64.ofNat height, frameRate, colorConfig⟩

/-- Every number on the way along the fields is in its range. -/
def InRange (bits : List Bool) : Prop := walk (fun _ _ => True) bits

/-- Every number on the way is in its range, and the way ends before the reference picture sets. -/
def EndsEarly (bits : List Bool) : Prop := walkFront (fun _ _ => False) bits

theorem follows_header : Follows readHeader walkHeader := by
  refine Follows.readBit.bind fun forbiddenZeroBit => ?_
  refine (Follows.refuse _ _).bind fun _ => ?_
  refine (Follows.readBits 6).bind fun naluType => ?_
  refine (Follows.refuse _ _).bind fun _ => ?_
  refine (Follows.skipBits (by decide)).bind fun _ => ?_
  refine (Follows.readBits 3).bind fun spsMaxSubLayersMinus1 => ?_
  exact (Follows.skipBits (by decide)).bind fun _ => .pure _

theorem follows_tier : Follows readTier walkTier := by
  refine follows_header.bind fun spsMaxSubLayersMinus1 => ?_
  exact (follows_profileTierLevel spsMaxSubLayersMinus1).bind fun _ => .pure _

theorem follows_pictureSize : Follows (readSize .on) walkPictureSize := by
  refine Follows.readExpGolomb.bind fun _ => ?_
  refine follows_pictureFields.bind fun picture => ?_
  refine (follows_size picture).bind fun size => ?_
  refine Follows.readExpGolomb.bind fun _ => ?_
  refine Follows.readExpGolomb.bind fun _ => ?_
  exact Follows.readExpGolomb.bind fun _ => .pure size

theorem follows_orderingInfo (spsMaxSubLayersMinus1 : Nat) :
    Follows (skipOrdering .on spsMaxSubLayersMinus1) (walkOrderingInfo spsMaxSubLayersMinus1) := by
  refine Follows.readBit.bind fun spsSubLayerOrderingInfoPresentFlag => ?_
  exact ((follows_orderingTriplet.repeatedly _).optionally _).bind fun _ => .pure ()

theorem follows_ordering : Follows (readOrdering .on) walkOrdering := by
  refine follows_tier.bind fun spsMaxSubLayersMinus1 => ?_
  refine follows_pictureSize.bind fun size => ?_
  exact (follows_orderingInfo spsMaxSubLayersMinus1).bind fun _ => .pure size

theorem follows_front : Follows (readFront .on) walkFront := by
  refine follows_ordering.bind fun size => ?_
  refine (Follows.readExpGolomb.repeatedly 6).bind fun _ => ?_
  refine Follows.readBit.bind fun scalingListEnabledFlag => ?_
  refine (follows_scalingListData.optionally scalingListEnabledFlag).bind fun _ => ?_
  refine (Follows.skipBits (by decide)).bind fun _ => ?_
  refine (Follows.skipBits (by decide)).bind fun _ => ?_
  refine Follows.readBit.bind fun pcmEnabledFlag => ?_
  refine (follows_pcm.optionally pcmEnabledFlag).bind fun _ => ?_
  exact Follows.readExpGolomb.bind fun numShortTermRefPicSets => .pure _

theorem follows_back : Follows (readBack .on) walkBack := by
  refine Follows.readBit.bind fun longTermRefPicsPresentFlag => ?_
  refine (follows_longTermRefPics.optionally longTermRefPicsPresentFlag).bind fun _ => ?_
  refine (Follows.skipBits (by decide)).bind fun _ => ?_
  refine (Follows.skipBits (by decide)).bind fun _ => ?_
  refine Follows.readBit.bind fun vuiParametersPresentFlag => ?_
  exact (follows_vui.optionally vuiParametersPresentFlag).bind fun vui => .pure _

theorem follows_read : Follows (read .on) walk := by
  refine follows_front.bind fun ((width, height), numShortTermRefPicSets) => ?_
  refine (follows_allocation numShortTermRefPicSets).bind fun _ => ?_
  refine (follows_refPicSets numShortTermRefPicSets none).bind fun _ => ?_
  exact follows_back.bind fun (colorConfig, frameRate) => .pure _

theorem not_crashes_iff (data : Bytes) : ¬Crashes (parse .on data) ↔
    3 ≤ data.length ∧ InRange (bytesBits (unescapeFrom data)) :=
  follows_read.unit_not_crashes_iff data

/-- The parser comes to the vector of reference picture sets, whose length is the number that it
has read. -/
def Allocates (checks : OverflowChecks) (data : Bytes) : Prop :=
  ∃ bytes result, unescaped data = .ok bytes ∧ run (readFront checks) bytes 0 = .ok result

/-- A unit is safe exactly if it is refused before the reference picture sets. -/
theorem not_allocates_iff (data : Bytes) :
    ¬Crashes (parse .on data) ∧ ¬Allocates .on data ↔
      3 ≤ data.length ∧ EndsEarly (bytesBits (unescapeFrom data)) := by
  by_cases short : data.length < 3
  · have panicked : parse .on data = .error .panic := by
      unfold parse unescaped unescape
      rw [if_pos short]
      rfl
    refine iff_of_false (fun both => both.1 ⟨.panic, panicked, rfl⟩) fun both => by omega
  · have long := Nat.not_lt.mp short
    have kept : unescaped data = .ok (unescapeFrom data) := if_neg short
    rw [not_crashes_iff, and_iff_right long, and_iff_right long]
    change walk _ _ ∧ _ ↔ walkFront _ _
    rw [← follows_read.not_crashes_iff, ← follows_front.refused_iff]
    constructor
    · rintro ⟨sound, unreached⟩
      cases front : run (readFront .on) (unescapeFrom data) 0 with
      | ok result => exact absurd ⟨_, result, kept, front⟩ unreached
      | error fault =>
          have failed : run (read .on) (unescapeFrom data) 0 = .error fault := sequence_error front
          exact ⟨fault, rfl, Wire.not_crashes_iff.mp sound fault failed⟩
    · rintro ⟨fault, front, returned⟩
      have failed : run (read .on) (unescapeFrom data) 0 = .error fault := sequence_error front
      constructor
      · rintro ⟨other, same, crashed⟩
        obtain rfl := Except.error.inj (failed.symm.trans same)
        rw [returned] at crashed
        cases crashed
      · rintro ⟨bytes, result, unit, done⟩
        obtain rfl := Except.ok.inj (kept.symm.trans unit)
        cases front.symm.trans done

end Sps

/-- Both parsers are safe on a unit exactly if it has three bytes, every number along its fields is
in its range, and the second of them refuses it before the reference picture sets. -/
theorem parsers_safe_iff (data : Bytes) :
    ¬Crashes (H264.Sps.parse .on data) ∧ ¬Crashes (Sps.parse .on data) ∧ ¬Sps.Allocates .on data ↔
      3 ≤ data.length ∧ H264.Sps.InRange (bytesBits (unescapeFrom data)) ∧
        Sps.EndsEarly (bytesBits (unescapeFrom data)) := by
  rw [Sps.not_allocates_iff, H264.Sps.not_crashes_iff]
  constructor
  · exact fun ⟨⟨long, inRange⟩, _, early⟩ => ⟨long, inRange, early⟩
  · exact fun ⟨long, inRange, early⟩ => ⟨⟨long, inRange⟩, long, early⟩

/-- A unit of a single byte. -/
theorem header_crashes : Crashes (H264.Sps.parse .on [0x67]) ∧ Crashes (Sps.parse .on [0x67]) :=
  ⟨⟨.panic, rfl, rfl⟩, ⟨.panic, rfl, rfl⟩⟩

end ScuffleVideo.H265
