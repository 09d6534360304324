import ScuffleVideo.Wire.EmulationPrevention
import ScuffleVideo.Wire.ExpGolomb

/-!
# AVC sequence parameter sets

The parameter set of a stream tells its profile, its sampling format, the size of its pictures and,
in the usability information, its colours and its frame rate.  The parser takes the emulation
prevention bytes out of the unit, reads the fields bit by bit and skips what it does not keep.
Sizes are computed with unsigned 64-bit numbers; a build either traps the arithmetic that leaves
them or lets it wrap.
-/

namespace ScuffleVideo.H264

open Wire BitReader BitCursor

structure ColorConfig where
  fullRange : Bool
  colorPrimaries : UInt8
  transferCharacteristics : UInt8
  matrixCoefficients : UInt8
  deriving DecidableEq, Repr

structure SpsExtended where
  chromaFormatIdc : UInt64
  bitDepthLumaMinus8 : UInt64
  bitDepthChromaMinus8 : UInt64
  deriving DecidableEq, Repr

structure Sps where
  profileIdc : UInt8
  levelIdc : UInt8
  ext : Option SpsExtended
  width : UInt64
  height : UInt64
  frameRate : Float
  colorConfig : Option ColorConfig

/-! ## The extension of high profiles -/

/-- The changes of a scaling list, up to the one that makes the scale zero. -/
def skipScalingList (checks : OverflowChecks) : Nat → Int → BitReader Unit
  | 0, _ => pure ()
  | count + 1, nextScale => do
      let deltaScale ← readSignedExpGolomb checks
      let sum ← between (asI64 checks (nextScale + deltaScale))
      let raised ← between (asI64 checks (sum + 256))
      if raised.tmod 256 = 0 then return () else skipScalingList checks count (raised.tmod 256)

/-- Scaling lists of the given sizes, each behind the flag that tells if it is there. -/
def skipScalingLists (checks : OverflowChecks) : List Nat → BitReader Unit
  | [] => pure ()
  | size :: sizes => do
      let present ← readBit
      let _ ← optionally present (skipScalingList checks size 8)
      skipScalingLists checks sizes

def scalingListSizes (chromaFormatIdc : Nat) : List Nat :=
  (List.range (if chromaFormatIdc ≠ 3 then 8 else 12)).map fun i => if i < 6 then 16 else 64

def SpsExtended.parse (checks : OverflowChecks) : BitReader SpsExtended := do
  let chromaFormatIdc ← readExpGolomb checks
  let _ ← optionally (chromaFormatIdc == 3) readBit
  let bitDepthLumaMinus8 ← readExpGolomb checks
  let bitDepthChromaMinus8 ← readExpGolomb checks
  let _ ← readBit
  let scaling ← readBit
  let _ ← optionally scaling (skipScalingLists checks (scalingListSizes chromaFormatIdc.toNat))
  return ⟨chromaFormatIdc, bitDepthLumaMinus8, bitDepthChromaMinus8⟩

/-! ## Pictures -/

/-- The profiles whose parameter sets have the extension. -/
def hasExtension (profileIdc : UInt8) : Bool :=
  [100, 110, 122, 244, 44, 83, 86, 118, 128, 138, 139, 134, 135].contains profileIdc

def skipPicOrderCntCycle (checks : OverflowChecks) : BitReader Unit := do
  skipBits 1
  let _ ← readSignedExpGolomb checks
  let _ ← readSignedExpGolomb checks
  let count ← readExpGolomb checks
  let _ ← repeatedly (readSignedExpGolomb checks) count.toNat
  return ()

def skipPicOrderCnt (checks : OverflowChecks) : BitReader Unit := do
  let picOrderCntType ← readExpGolomb checks
  if picOrderCntType = 0 then do
    let _ ← readExpGolomb checks
    return ()
  else if picOrderCntType = 1 then skipPicOrderCntCycle checks
  else return ()

/-- The offsets by which a picture is cropped. -/
structure Cropping where
  left : UInt64
  right : UInt64
  top : UInt64
  bottom : UInt64
  deriving DecidableEq, Repr

def readCropping (checks : OverflowChecks) : BitReader Cropping := do
  let left ← readExpGolomb checks
  let right ← readExpGolomb checks
  let top ← readExpGolomb checks
  let bottom ← readExpGolomb checks
  return ⟨left, right, top, bottom⟩

/-- The fields that the size of a picture is computed from. -/
structure PictureFields where
  picWidthInMbsMinus1 : UInt64
  picHeightInMapUnitsMinus1 : UInt64
  frameMbsOnlyFlag : Bool
  cropping : Cropping
  deriving DecidableEq, Repr

def readPictureFields (checks : OverflowChecks) : BitReader PictureFields := do
  let picWidthInMbsMinus1 ← readExpGolomb checks
  let picHeightInMapUnitsMinus1 ← readExpGolomb checks
  let frameMbsOnlyFlag ← readBit
  let _ ← optionally (!frameMbsOnlyFlag) (skipBits 1)
  skipBits 1
  let frameCroppingFlag ← readBit
  let cropping ← optionally frameCroppingFlag (readCropping checks)
  return ⟨picWidthInMbsMinus1, picHeightInMapUnitsMinus1, frameMbsOnlyFlag,
    cropping.getD ⟨0, 0, 0, 0⟩⟩

/-- A size less twice an offset, and less twice another. -/
def cropped (checks : OverflowChecks) (size : Nat) (first second : UInt64) : Reader IoFault Nat := do
  let firstCut ← asU64 checks (first.toNat * 2)
  let once ← asU64 checks (size - firstCut)
  let secondCut ← asU64 checks (second.toNat * 2)
  asU64 checks (once - secondCut)

def computeWidth (checks : OverflowChecks) (picture : PictureFields) : Reader IoFault Nat := do
  let columns ← asU64 checks (picture.picWidthInMbsMinus1.toNat + 1)
  let coded ← asU64 checks (columns * 16)
  cropped checks coded picture.cropping.right picture.cropping.left

def computeHeight (checks : OverflowChecks) (picture : PictureFields) : Reader IoFault Nat := do
  let units ← asU64 checks (picture.picHeightInMapUnitsMinus1.toNat + 1)
  let rows ← asU64 checks ((2 - picture.frameMbsOnlyFlag.toNat : Nat) * units)
  let coded ← asU64 checks (rows * 16)
  cropped checks coded picture.cropping.bottom picture.cropping.top

def computeSize (checks : OverflowChecks) (picture : PictureFields) : Reader IoFault (Nat × Nat) := do
  let width ← computeWidth checks picture
  let height ← computeHeight checks picture
  return (width, height)

/-! ## Usability information -/

def skipAspectRatio : BitReader Unit := do
  let aspectRatioIdc ← readU8
  let _ ← optionally (aspectRatioIdc == 255) do
    skipBits 16
    skipBits 16
  return ()

def readColorDescription : BitReader (UInt8 × UInt8 × UInt8) := do
  let colorPrimaries ← readU8
  let transferCharacteristics ← readU8
  let matrixCoefficients ← readU8
  return (colorPrimaries, transferCharacteristics, matrixCoefficients)

/-- Without a description the colours are unspecified. -/
def readColorConfig : BitReader ColorConfig := do
  skipBits 3
  let fullRange ← readBit
  let described ← readBit
  let description ← optionally described readColorDescription
  let (colorPrimaries, transferCharacteristics, matrixCoefficients) := description.getD (2, 2, 2)
  return ⟨fullRange, colorPrimaries, transferCharacteristics, matrixCoefficients⟩

def skipChromaLocation (checks : OverflowChecks) : BitReader Unit := do
  let _ ← readExpGolomb checks
  let _ ← readExpGolomb checks
  return ()

/-- Two fields make a frame. -/
def frameRateOf (timeScale numUnitsInTick : UInt32) : Float :=
  timeScale.toFloat / (2.0 * numUnitsInTick.toFloat)

def readFrameRate : BitReader Float := do
  let numUnitsInTick ← readU32
  let timeScale ← readU32
  refuse (numUnitsInTick == 0) "num_units_in_tick cannot be zero"
  return frameRateOf timeScale numUnitsInTick

def readVui (checks : OverflowChecks) : BitReader (Option ColorConfig × Float) := do
  let aspectRatio ← readBit
  let _ ← optionally aspectRatio skipAspectRatio
  let overscanInfo ← readBit
  let _ ← optionally overscanInfo (skipBits 1)
  let videoSignalType ← readBit
  let colorConfig ← optionally videoSignalType readColorConfig
  let chromaLocation ← readBit
  let _ ← optionally chromaLocation (skipChromaLocation checks)
  let timingInfo ← readBit
  let frameRate ← optionally timingInfo readFrameRate
  return (colorConfig, frameRate.getD 0.0)

/-! ## The parameter set -/

namespace Sps

/-- What stands in front of the fields of the parameter set. -/
def readHeader : BitReader Unit := do
  let forbiddenZeroBit ← readBit
  refuse forbiddenZeroBit "Forbidden zero bit is set"
  skipBits 2
  let nalUnitType ← readBits 5
  refuse (nalUnitType != 7) "NAL unit type is not SPS"

/-- The fields up to the size of the picture. -/
def readFront (checks : OverflowChecks) :
    BitReader (UInt8 × UInt8 × Option SpsExtended × PictureFields) := do
  readHeader
  let profileIdc ← readU8
  skipBits 8
  let levelIdc ← readU8
  let _ ← readExpGolomb checks
  let ext ← optionally (hasExtension profileIdc) (SpsExtended.parse checks)
  let _ ← readExpGolomb checks
  skipPicOrderCnt checks
  let _ ← readExpGolomb checks
  let _ ← readBit
  let picture ← readPictureFields checks
  return (profileIdc, levelIdc, ext, picture)

def read (checks : OverflowChecks) : BitReader Sps := do
  let (profileIdc, levelIdc, ext, picture) ← readFront checks
  let (width, height) ← between (computeSize checks picture)
  let vuiParametersPresent ← readBit
  let vui ← optionally vuiParametersPresent (readVui checks)
  let (colorConfig, frameRate) := vui.getD (none, 0.0)
  return ⟨profileIdc, levelIdc, ext, UInt64.ofNat width, UInt64.ofNat height, frameRate,
    colorConfig⟩

/-- The bytes of the unit without emulation prevention. -/
def unescaped (data : Bytes) : Except IoFault Bytes := unescape data

def parse (checks : OverflowChecks) (data : Bytes) : Except IoFault Sps := do
  let bytes ← unescaped data
  let (sps, _) ← (run (read checks)).parse bytes
  return sps

end Sps

end ScuffleVideo.H264
