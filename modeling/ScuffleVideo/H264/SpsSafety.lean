import ScuffleVideo.H264.Sps
import ScuffleVideo.Wire.Walk

/-!
# Units on which the AVC parser panics

With overflow checks the parser panics on a unit of less than three bytes, on a code whose number
leaves its type, on scaling lists whose scale leaves 64 bits and on a picture that is cropped by
more than it has.  The walk along the fields requires every number on the way to be in its range.
-/

namespace ScuffleVideo.H264

open Wire BitReader

/-! ## The extension of high profiles -/

def walkScalingList : Nat → Int → Walk Unit
  | 0, _ => pure ()
  | count + 1, nextScale => do
      let deltaScale ← Walk.signedExpGolomb
      let sum ← Walk.i64 (nextScale + deltaScale)
      let raised ← Walk.i64 (sum + 256)
      if raised.tmod 256 = 0 then return () else walkScalingList count (raised.tmod 256)

def walkScalingLists : List Nat → Walk Unit
  | [] => pure ()
  | size :: sizes => do
      let present ← Walk.bit
      let _ ← Walk.optionally present (walkScalingList size 8)
      walkScalingLists sizes

def SpsExtended.walk : Walk SpsExtended := do
  let chromaFormatIdc ← Walk.expGolomb
  let _ ← Walk.optionally (chromaFormatIdc == 3) Walk.bit
  let bitDepthLumaMinus8 ← Walk.expGolomb
  let bitDepthChromaMinus8 ← Walk.expGolomb
  let _ ← Walk.bit
  let scaling ← Walk.bit
  let _ ← Walk.optionally scaling (walkScalingLists (scalingListSizes chromaFormatIdc.toNat))
  return ⟨chromaFormatIdc, bitDepthLumaMinus8, bitDepthChromaMinus8⟩

theorem follows_scalingList (count : Nat) (nextScale : Int) :
    Follows (skipScalingList .on count nextScale) (walkScalingList count nextScale) := by
  induction count generalizing nextScale with
  | zero => exact .pure ()
  | succ count ih =>
      refine Follows.readSignedExpGolomb.bind fun deltaScale => ?_
      refine (Follows.asI64 _).bind fun sum => ?_
      exact (Follows.asI64 _).bind fun raised => .ite (.pure ()) (ih _)

theorem follows_scalingLists (sizes : List Nat) :
    Follows (skipScalingLists .on sizes) (walkScalingLists sizes) := by
  induction sizes with
  | nil => exact .pure ()
  | cons size sizes ih =>
      exact Follows.readBit.bind fun present =>
        ((follows_scalingList size 8).optionally present).bind fun _ => ih

theorem SpsExtended.follows : Follows (SpsExtended.parse .on) SpsExtended.walk := by
  refine Follows.readExpGolomb.bind fun chromaFormatIdc => ?_
  refine (Follows.readBit.optionally _).bind fun _ => ?_
  refine Follows.readExpGolomb.bind fun bitDepthLumaMinus8 => ?_
  refine Follows.readExpGolomb.bind fun bitDepthChromaMinus8 => ?_
  refine Follows.readBit.bind fun _ => ?_
  refine Follows.readBit.bind fun scaling => ?_
  exact ((follows_scalingLists _).optionally scaling).bind fun _ => .pure _

/-! ## Pictures -/

def walkPicOrderCntCycle : Walk Unit := do
  Walk.skip 1
  let _ ← Walk.signedExpGolomb
  let _ ← Walk.signedExpGolomb
  let count ← Walk.expGolomb
  let _ ← Walk.repeatedly Walk.signedExpGolomb count.toNat
  return ()

def walkPicOrderCnt : Walk Unit := do
  let picOrderCntType ← Walk.expGolomb
  if picOrderCntType = 0 then do
    let _ ← Walk.expGolomb
    return ()
  else if picOrderCntType = 1 then walkPicOrderCntCycle
  else return ()

def walkCropping : Walk Cropping := do
  let left ← Walk.expGolomb
  let right ← Walk.expGolomb
  let top ← Walk.expGolomb
  let bottom ← Walk.expGolomb
  return ⟨left, right, top, bottom⟩

def walkPictureFields : Walk PictureFields := do
  let picWidthInMbsMinus1 ← Walk.expGolomb
  let picHeightInMapUnitsMinus1 ← Walk.expGolomb
  let frameMbsOnlyFlag ← Walk.bit
  let _ ← Walk.optionally (!frameMbsOnlyFlag) (Walk.skip 1)
  Walk.skip 1
  let frameCroppingFlag ← Walk.bit
  let cropping ← Walk.optionally frameCroppingFlag walkCropping
  return ⟨picWidthInMbsMinus1, picHeightInMapUnitsMinus1, frameMbsOnlyFlag,
    cropping.getD ⟨0, 0, 0, 0⟩⟩

/-- The coded size is a 64-bit number, and twice the offsets can be taken from it. -/
def walkCropped (size : Nat) (first second : UInt64) : Walk Nat := do
  let firstCut ← Walk.u64 (first.toNat * 2)
  let once ← Walk.u64 (size - firstCut)
  let secondCut ← Walk.u64 (second.toNat * 2)
  Walk.u64 (once - secondCut)

def walkSize (picture : PictureFields) : Walk (Nat × Nat) := do
  let width ← do
    let columns ← Walk.u64 (picture.picWidthInMbsMinus1.toNat + 1)
    let coded ← Walk.u64 (columns * 16)
    walkCropped coded picture.cropping.right picture.cropping.left
  let height ← do
    let units ← Walk.u64 (picture.picHeightInMapUnitsMinus1.toNat + 1)
    let rows ← Walk.u64 ((2 - picture.frameMbsOnlyFlag.toNat : Nat) * units)
    let coded ← Walk.u64 (rows * 16)
    walkCropped coded picture.cropping.bottom picture.cropping.top
  return (width, height)

theorem follows_picOrderCntCycle : Follows (skipPicOrderCntCycle .on) walkPicOrderCntCycle := by
  refine (Follows.skipBits (by decide)).bind fun _ => ?_
  refine Follows.readSignedExpGolomb.bind fun _ => ?_
  refine Follows.readSignedExpGolomb.bind fun _ => ?_
  refine Follows.readExpGolomb.bind fun count => ?_
  exact (Follows.readSignedExpGolomb.repeatedly count.toNat).bind fun _ => .pure ()

theorem follows_picOrderCnt : Follows (skipPicOrderCnt .on) walkPicOrderCnt := by
  refine Follows.readExpGolomb.bind fun picOrderCntType => ?_
  refine .ite (Follows.readExpGolomb.bind fun _ => .pure ()) ?_
  exact .ite follows_picOrderCntCycle (.pure ())

theorem follows_cropping : Follows (readCropping .on) walkCropping := by
  refine Follows.readExpGolomb.bind fun left => ?_
  refine Follows.readExpGolomb.bind fun right => ?_
  refine Follows.readExpGolomb.bind fun top => ?_
  exact Follows.readExpGolomb.bind fun bottom => .pure _

theorem follows_pictureFields : Follows (readPictureFields .on) walkPictureFields := by
  refine Follows.readExpGolomb.bind fun picWidthInMbsMinus1 => ?_
  refine Follows.readExpGolomb.bind fun picHeightInMapUnitsMinus1 => ?_
  refine Follows.readBit.bind fun frameMbsOnlyFlag => ?_
  refine ((Follows.skipBits (by decide)).optionally _).bind fun _ => ?_
  refine (Follows.skipBits (by decide)).bind fun _ => ?_
  refine Follows.readBit.bind fun frameCroppingFlag => ?_
  exact (follows_cropping.optionally frameCroppingFlag).bind fun cropping => .pure _

theorem follows_cropped (size : Nat) (first second : UInt64) :
    Follows (between (cropped .on size first second)) (walkCropped size first second) := by
  refine (Follows.asU64 _).betweenBind fun firstCut => ?_
  refine (Follows.asU64 _).betweenBind fun once => ?_
  exact (Follows.asU64 _).betweenBind fun secondCut => Follows.asU64 _

theorem follows_size (picture : PictureFields) :
    Follows (between (computeSize .on picture)) (walkSize picture) := by
  have width : Follows (between (computeWidth .on picture)) _ :=
    (Follows.asU64 _).betweenBind fun columns =>
      (Follows.asU64 _).betweenBind fun coded => follows_cropped _ _ _
  have height : Follows (between (computeHeight .on picture)) _ :=
    (Follows.asU64 _).betweenBind fun units => (Follows.asU64 _).betweenBind fun rows =>
      (Follows.asU64 _).betweenBind fun coded => follows_cropped _ _ _
  exact width.betweenBind fun width => height.betweenBind fun height => .betweenPure _

/-! ## Usability information -/

def walkAspectRatio : Walk Unit := do
  let aspectRatioIdc ← Walk.u8
  let _ ← Walk.optionally (aspectRatioIdc == 255) do
    Walk.skip 16
    Walk.skip 16
  return ()

def walkColorConfig : Walk ColorConfig := do
  Walk.skip 3
  let fullRange ← Walk.bit
  let described ← Walk.bit
  let description ← Walk.optionally described do
    let colorPrimaries ← Walk.u8
    let transferCharacteristics ← Walk.u8
    let matrixCoefficients ← Walk.u8
    return (colorPrimaries, transferCharacteristics, matrixCoefficients)
  let (colorPrimaries, transferCharacteristics, matrixCoefficients) := description.getD (2, 2, 2)
  return ⟨fullRange, colorPrimaries, transferCharacteristics, matrixCoefficients⟩

def walkChromaLocation : Walk Unit := do
  let _ ← Walk.expGolomb
  let _ ← Walk.expGolomb
  return ()

def walkFrameRate : Walk Float := do
  let numUnitsInTick ← Walk.u32
  let timeScale ← Walk.u32
  Walk.refuse (numUnitsInTick == 0)
  return frameRateOf timeScale numUnitsInTick

def walkVui : Walk (Option ColorConfig × Float) := do
  let aspectRatio ← Walk.bit
  let _ ← Walk.optionally aspectRatio walkAspectRatio
  let overscanInfo ← Walk.bit
  let _ ← Walk.optionally overscanInfo (Walk.skip 1)
  let videoSignalType ← Walk.bit
  let colorConfig ← Walk.optionally videoSignalType walkColorConfig
  let chromaLocation ← Walk.bit
  let _ ← Walk.optionally chromaLocation walkChromaLocation
  let timingInfo ← Walk.bit
  let frameRate ← Walk.optionally timingInfo walkFrameRate
  return (colorConfig, frameRate.getD 0.0)

theorem follows_aspectRatio : Follows skipAspectRatio walkAspectRatio := by
  refine Follows.readU8.bind fun aspectRatioIdc => ?_
  exact (((Follows.skipBits (by decide)).bind fun _ => Follows.skipBits (by decide)).optionally
    _).bind fun _ => .pure ()

theorem follows_colorConfig : Follows readColorConfig walkColorConfig := by
  refine (Follows.skipBits (by decide)).bind fun _ => ?_
  refine Follows.readBit.bind fun fullRange => ?_
  refine Follows.readBit.bind fun described => ?_
  have description : Follows readColorDescription _ :=
    Follows.readU8.bind fun _ => Follows.readU8.bind fun _ => Follows.readU8.bind fun _ => .pure _
  exact (description.optionally described).bind fun description => .pure _

theorem follows_chromaLocation : Follows (skipChromaLocation .on) walkChromaLocation :=
  Follows.readExpGolomb.bind fun _ => Follows.readExpGolomb.bind fun _ => .pure ()

theorem follows_frameRate : Follows readFrameRate walkFrameRate := by
  refine Follows.readU32.bind fun numUnitsInTick => ?_
  refine Follows.readU32.bind fun timeScale => ?_
  exact (Follows.refuse _ _).bind fun _ => .pure _

theorem follows_vui : Follows (readVui .on) walkVui := by
  refine Follows.readBit.bind fun aspectRatio => ?_
  refine (follows_aspectRatio.optionally aspectRatio).bind fun _ => ?_
  refine Follows.readBit.bind fun overscanInfo => ?_
  refine ((Follows.skipBits (by decide)).optionally overscanInfo).bind fun _ => ?_
  refine Follows.readBit.bind fun videoSignalType => ?_
  refine (follows_colorConfig.optionally videoSignalType).bind fun colorConfig => ?_
  refine Follows.readBit.bind fun chromaLocation => ?_
  refine (follows_chromaLocation.optionally chromaLocation).bind fun _ => ?_
  refine Follows.readBit.bind fun timingInfo => ?_
  exact (follows_frameRate.optionally timingInfo).bind fun frameRate => .pure _

/-! ## The parameter set -/

namespace Sps

def walkHeader : Walk Unit := do
  let forbiddenZeroBit ← Walk.bit
  Walk.refuse forbiddenZeroBit
  Walk.skip 2
  let nalUnitType ← Walk.number 5
  Walk.refuse (nalUnitType != 7)

def walkFront : Walk (UInt8 × UInt8 × Option SpsExtended × PictureFields) := do
  walkHeader
  let profileIdc ← Walk.u8
  Walk.skip 8
  let levelIdc ← Walk.u8
  let _ ← Walk.expGolomb
  let ext ← Walk.optionally (hasExtension profileIdc) SpsExtended.walk
  let _ ← Walk.expGolomb
  walkPicOrderCnt
  let _ ← Walk.expGolomb
  let _ ← Walk.bit
  let picture ← walkPictureFields
  return (profileIdc, levelIdc, ext, picture)

def walk : Walk Sps := do
  let (profileIdc, levelIdc, ext, picture) ← walkFront
  let (width, height) ← walkSize picture
  let vuiParametersPresent ← Walk.bit
  let vui ← Walk.optionally vuiParametersPresent walkVui
  let (colorConfig, frameRate) := vui.getD (none, 0.0)
  return ⟨profileIdc, levelIdc, ext, UInt64.ofNat width, UInt64.ofNat height, frameRate,
    colorConfig⟩

/-- Every number on the way along the fields is in its range. -/
def InRange (bits : List Bool) : Prop := walk (fun _ _ => True) bits

theorem follows_header : Follows readHeader walkHeader := by
  refine Follows.readBit.bind fun forbiddenZeroBit => ?_
  refine (Follows.refuse _ _).bind fun _ => ?_
  refine (Follows.skipBits (by decide)).bind fun _ => ?_
  exact (Follows.readBits 5).bind fun nalUnitType => Follows.refuse _ _

theorem follows_front : Follows (readFront .on) walkFront := by
  refine follows_header.bind fun _ => ?_
  refine Follows.readU8.bind fun profileIdc => ?_
  refine (Follows.skipBits (by decide)).bind fun _ => ?_
  refine Follows.readU8.bind fun levelIdc => ?_
  refine Follows.readExpGolomb.bind fun _ => ?_
  refine (SpsExtended.follows.optionally (hasExtension profileIdc)).bind fun ext => ?_
  refine Follows.readExpGolomb.bind fun _ => ?_
  refine follows_picOrderCnt.bind fun _ => ?_
  refine Follows.readExpGolomb.bind fun _ => ?_
  refine Follows.readBit.bind fun _ => ?_
  exact follows_pictureFields.bind fun picture => .pure _

theorem follows_read : Follows (read .on) walk := by
  refine follows_front.bind fun (profileIdc, levelIdc, ext, picture) => ?_
  refine (follows_size picture).bind fun (width, height) => ?_
  refine Follows.readBit.bind fun vuiParametersPresent => ?_
  exact (follows_vui.optionally vuiParametersPresent).bind fun vui => .pure _

theorem not_crashes_iff (data : Bytes) : ¬Crashes (parse .on data) ↔
    3 ≤ data.length ∧ InRange (bytesBits (unescapeFrom data)) :=
  follows_read.unit_not_crashes_iff data

end Sps

end ScuffleVideo.H264
