import ScuffleVideo.Wire.EmulationPrevention
import ScuffleVideo.Wire.ExpGolomb

/-!
# HEVC sequence parameter sets

The parser takes the emulation prevention bytes out of the unit, reads past the profile, tier and
level of the stream and of its sub-layers, and keeps of the fields behind them the size of the
pictures, the colours and the frame rate.  The reference picture sets are counted first, and a
vector of that length is allocated before they are read.
-/

namespace ScuffleVideo.H265

open Wire BitReader BitCursor

structure ColorConfig where
  fullRange : Bool
  colorPrimaries : UInt8
  transferCharacteristics : UInt8
  matrixCoefficients : UInt8
  deriving DecidableEq, Repr

structure Sps where
  width : UInt64
  height : UInt64
  frameRate : Float
  colorConfig : Option ColorConfig

/-! ## Profile, tier and level -/

/-- The sub-layers, each with the flag that tells if its level is there. -/
def skipSubLayers : List Bool → BitReader Unit
  | [] => pure ()
  | levelPresent :: flags => do
      skipBits (2 + 1 + 5 + 32 + 1 + 1 + 1 + 1 + 43 + 1)
      let _ ← optionally levelPresent (skipBits 8)
      skipSubLayers flags

/-- The two flags of a sub-layer, of which the second is kept. -/
def readSubLayerFlags : BitReader Bool := do
  skipBits 1
  readBit

/-- The profile and the level of the stream, and the flags of the sub-layers. -/
def readSubLayersFlags (maxSubLayersMinus1 : Nat) : BitReader (List Bool) := do
  skipBits (2 + 1 + 5 + 32 + 1 + 1 + 1 + 1 + 43 + 1 + 8)
  let levelPresent ← repeatedly readSubLayerFlags maxSubLayersMinus1
  let _ ← optionally (0 < maxSubLayersMinus1 && maxSubLayersMinus1 < 8)
    (skipBits (2 * (8 - maxSubLayersMinus1)))
  return levelPresent

def skipProfileTierLevel (maxSubLayersMinus1 : Nat) : BitReader Unit := do
  let levelPresent ← readSubLayersFlags maxSubLayersMinus1
  skipSubLayers levelPresent

/-! ## Pictures -/

/-- The offsets by which a picture is cropped. -/
structure ConformanceWindow where
  left : UInt64
  right : UInt64
  top : UInt64
  bottom : UInt64
  deriving DecidableEq, Repr

def readConformanceWindow (checks : OverflowChecks) : BitReader ConformanceWindow := do
  let left ← readExpGolomb checks
  let right ← readExpGolomb checks
  let top ← readExpGolomb checks
  let bottom ← readExpGolomb checks
  return ⟨left, right, top, bottom⟩

/-- The fields that the size of a picture is computed from. -/
structure PictureFields where
  chromaFormatIdc : UInt64
  picWidthInLumaSamples : UInt64
  picHeightInLumaSamples : UInt64
  window : ConformanceWindow
  deriving DecidableEq, Repr

def readPictureFields (checks : OverflowChecks) : BitReader PictureFields := do
  let chromaFormatIdc ← readExpGolomb checks
  let _ ← optionally (chromaFormatIdc == 3) readBit
  let picWidthInLumaSamples ← readExpGolomb checks
  let picHeightInLumaSamples ← readExpGolomb checks
  let conformanceWindowFlag ← readBit
  let window ← optionally conformanceWindowFlag (readConformanceWindow checks)
  return ⟨chromaFormatIdc, picWidthInLumaSamples, picHeightInLumaSamples,
    window.getD ⟨0, 0, 0, 0⟩⟩

/-- The samples of luma that a sample of chroma stands for. -/
def subSampling : Nat → Option (Nat × Nat)
  | 0 => some (1, 1)
  | 1 => some (2, 2)
  | 2 => some (2, 1)
  | 3 => some (1, 1)
  | _ => none

/-- A size less the offsets, in units of chroma samples. -/
def cropped (checks : OverflowChecks) (size factor : Nat) (first second : UInt64) :
    Reader IoFault Nat := do
  let offsets ← asU64 checks (first.toNat + second.toNat)
  let cut ← asU64 checks (factor * offsets)
  asU64 checks (size - cut)

def computeSize (checks : OverflowChecks) (picture : PictureFields) : Reader IoFault (Nat × Nat) :=
  match subSampling picture.chromaFormatIdc.toNat with
  | none => Reader.fail (.invalidData "chroma_format_idc is not 0-3")
  | some (subWidthC, subHeightC) => do
      let width ← cropped checks picture.picWidthInLumaSamples.toNat subWidthC
        picture.window.left picture.window.right
      let height ← cropped checks picture.picHeightInLumaSamples.toNat subHeightC
        picture.window.top picture.window.bottom
      return (width, height)

/-! ## Coding tools -/

def skipOrderingTriplet (checks : OverflowChecks) : BitReader Unit := do
  let _ ← readExpGolomb checks
  let _ ← readExpGolomb checks
  let _ ← readExpGolomb checks
  return ()

/-- The coefficients of a scaling list. -/
def skipCoefficients (checks : OverflowChecks) : Nat → Int → BitReader Unit
  | 0, _ => pure ()
  | count + 1, nextCoef => do
      let scalingListDeltaCoef ← readSignedExpGolomb checks
      let sum ← between (asI64 checks (nextCoef + scalingListDeltaCoef))
      let raised ← between (asI64 checks (sum + 256))
      skipCoefficients checks count (raised.tmod 256)

def readFirstCoefficient (checks : OverflowChecks) : BitReader Int := do
  let scalingListDcCoefMinus8 ← readSignedExpGolomb checks
  between (asI64 checks (8 + scalingListDcCoefMinus8))

/-- A scaling list that is predicted, or coded with as many coefficients as its size has. -/
def skipScalingList (checks : OverflowChecks) (sizeId : Nat) : BitReader Unit := do
  let scalingListPredModeFlag ← readBit
  if scalingListPredModeFlag then do
    let firstCoef ← optionally (1 < sizeId) (readFirstCoefficient checks)
    skipCoefficients checks (min 64 (2 ^ (4 + 2 * sizeId))) (firstCoef.getD 8)
  else do
    let _ ← readExpGolomb checks
    return ()

/-- The lists of the sizes, of which the largest has two instead of six. -/
def skipScalingLists (checks : OverflowChecks) : List Nat → BitReader Unit
  | [] => pure ()
  | sizeId :: sizeIds => do
      let _ ← repeatedly (skipScalingList checks sizeId) (if sizeId = 3 then 2 else 6)
      skipScalingLists checks sizeIds

def skipScalingListData (checks : OverflowChecks) : BitReader Unit := do
  let spsScalingListDataPresentFlag ← readBit
  let _ ← optionally spsScalingListDataPresentFlag (skipScalingLists checks [0, 1, 2, 3])
  return ()

def skipPcm (checks : OverflowChecks) : BitReader Unit := do
  skipBits 4
  skipBits 4
  let _ ← readExpGolomb checks
  let _ ← readExpGolomb checks
  skipBits 1

/-! ## Reference pictures -/

/-- A vector of numbers of eight bytes has fewer bytes than the largest offset. -/
def allocate (count : Nat) : Reader IoFault Unit :=
  if 8 * count < 2 ^ 63 then pure () else Reader.fail .panic

/-- A picture of the set before, which is used or only kept or neither. -/
def readKept : BitReader Bool := do
  let usedByCurrPicFlag ← readBit
  if usedByCurrPicFlag then return true else readBit

/-- How many of the pictures of the set before are in the set that is predicted from it. -/
def countKept (checks : OverflowChecks) : Nat → Nat → BitReader Nat
  | 0, total => pure total
  | count + 1, total => do
      let kept ← readKept
      let total ← if kept then between (asU64 checks (total + 1)) else pure total
      countKept checks count total

def readPredictedSet (checks : OverflowChecks) (previous : Nat) : BitReader Nat := do
  skipBits 1
  let _ ← readExpGolomb checks
  countKept checks previous 0

def skipPicture (checks : OverflowChecks) : BitReader Unit := do
  let _ ← readExpGolomb checks
  skipBits 1

def readExplicitSet (checks : OverflowChecks) : BitReader Nat := do
  let numNegativePics ← readExpGolomb checks
  let numPositivePics ← readExpGolomb checks
  let total ← between (asU64 checks (numNegativePics.toNat + numPositivePics.toNat))
  let _ ← repeatedly (skipPicture checks) numNegativePics.toNat
  let _ ← repeatedly (skipPicture checks) numPositivePics.toNat
  return total

/-- A set is explicit, or predicted if there is one before it. -/
def readRefPicSet (checks : OverflowChecks) (previous : Option Nat) : BitReader Nat := do
  let predicted ← optionally previous.isSome readBit
  if predicted.getD false then readPredictedSet checks (previous.getD 0) else readExplicitSet checks

/-- The loop keeps the number of pictures of every set, and looks at the one of the set before. -/
def skipRefPicSets (checks : OverflowChecks) : Nat → Option Nat → BitReader Unit
  | 0, _ => pure ()
  | count + 1, previous => do
      let numDeltaPocs ← readRefPicSet checks previous
      skipRefPicSets checks count (some numDeltaPocs)

def skipLongTermRefPics (checks : OverflowChecks) : BitReader Unit := do
  let numLongTermRefPicsSps ← readExpGolomb checks
  let _ ← repeatedly (skipPicture checks) numLongTermRefPicsSps.toNat
  return ()

/-! ## Usability information -/

def skipAspectRatio : BitReader Unit := do
  let aspectRatioIdc ← readBits 8
  let _ ← optionally (aspectRatioIdc == 255) do
    skipBits 16
    skipBits 16
  return ()

def readColorDescription : BitReader (UInt8 × UInt8 × UInt8) := do
  let colorPrimaries ← readU8
  let transferCharacteristics ← readU8
  let matrixCoefficients ← readU8
  return (colorPrimaries, transferCharacteristics, matrixCoefficients)

/-- Without a description the colours are unspecified. -/
def readColorConfig : BitReader ColorConfig := do
  skipBits 3
  let fullRange ← readBit
  let described ← readBit
  let description ← optionally described readColorDescription
  let (colorPrimaries, transferCharacteristics, matrixCoefficients) := description.getD (2, 2, 2)
  return ⟨fullRange, colorPrimaries, transferCharacteristics, matrixCoefficients⟩

def skipChromaLocation (checks : OverflowChecks) : BitReader Unit := do
  let _ ← readExpGolomb checks
  let _ ← readExpGolomb checks
  return ()

def skipDefaultDisplayWindow (checks : OverflowChecks) : BitReader Unit := do
  let _ ← readConformanceWindow checks
  return ()

def readFrameRate : BitReader Float := do
  let numUnitsInTick ← readBits 32
  let timeScale ← readBits 32
  refuse (numUnitsInTick == 0) "vui_num_units_in_tick cannot be zero"
  return timeScale.toFloat / numUnitsInTick.toFloat

def readVui (checks : OverflowChecks) : BitReader (Option ColorConfig × Float) := do
  let aspectRatio ← readBit
  let _ ← optionally aspectRatio skipAspectRatio
  let overscanInfo ← readBit
  let _ ← optionally overscanInfo (skipBits 1)
  let videoSignalType ← readBit
  let colorConfig ← optionally videoSignalType readColorConfig
  let chromaLocation ← readBit
  let _ ← optionally chromaLocation (skipChromaLocation checks)
  skipBits 1
  skipBits 1
  skipBits 1
  let defaultDisplayWindow ← readBit
  let _ ← optionally defaultDisplayWindow (skipDefaultDisplayWindow checks)
  let timingInfo ← readBit
  let frameRate ← optionally timingInfo readFrameRate
  return (colorConfig, frameRate.getD 0.0)

/-! ## The parameter set -/

namespace Sps

/-- What stands in front of the profile: the header of the unit, the number of a parameter set and
the sub-layers. -/
def readHeader : BitReader Nat := do
  let forbiddenZeroBit ← readBit
  refuse forbiddenZeroBit "forbidden_zero_bit is not zero"
  let naluType ← readBits 6
  refuse (naluType != 33) "nalu_type is not 33"
  skipBits (6 + 3 + 4)
  let spsMaxSubLayersMinus1 ← readBits 3
  skipBits 1
  return spsMaxSubLayersMinus1.toNat

/-- The fields up to the end of the profile, tier and level. -/
def readTier : BitReader Nat := do
  let spsMaxSubLayersMinus1 ← readHeader
  skipProfileTierLevel spsMaxSubLayersMinus1
  return spsMaxSubLayersMinus1

/-- The fields behind these up to the ordering of the sub-layers. -/
def readSize (checks : OverflowChecks) : BitReader (Nat × Nat) := do
  let _ ← readExpGolomb checks
  let picture ← readPictureFields checks
  let size ← between (computeSize checks picture)
  let _ ← readExpGolomb checks
  let _ ← readExpGolomb checks
  let _ ← readExpGolomb checks
  return size

/-- The ordering of the sub-layers, if it is there. -/
def skipOrdering (checks : OverflowChecks) (spsMaxSubLayersMinus1 : Nat) : BitReader Unit := do
  let spsSubLayerOrderingInfoPresentFlag ← readBit
  let _ ← optionally spsSubLayerOrderingInfoPresentFlag
    (repeatedly (skipOrderingTriplet checks) (spsMaxSubLayersMinus1 + 1))
  return ()

/-- The fields up to the end of the ordering of the sub-layers. -/
def readOrdering (checks : OverflowChecks) : BitReader (Nat × Nat) := do
  let spsMaxSubLayersMinus1 ← readTier
  let size ← readSize checks
  skipOrdering checks spsMaxSubLayersMinus1
  return size

/-- The fields up to the number of reference picture sets. -/
def readFront (checks : OverflowChecks) : BitReader ((Nat × Nat) × Nat) := do
  let size ← readOrdering checks
  let _ ← repeatedly (readExpGolomb checks) 6
  let scalingListEnabledFlag ← readBit
  let _ ← optionally scalingListEnabledFlag (skipScalingListData checks)
  skipBits 1
  skipBits 1
  let pcmEnabledFlag ← readBit
  let _ ← optionally pcmEnabledFlag (skipPcm checks)
  let numShortTermRefPicSets ← readExpGolomb checks
  return (size, numShortTermRefPicSets.toNat)

/-- The fields behind the reference picture sets. -/
def readBack (checks : OverflowChecks) : BitReader (Option ColorConfig × Float) := do
  let longTermRefPicsPresentFlag ← readBit
  let _ ← optionally longTermRefPicsPresentFlag (skipLongTermRefPics checks)
  skipBits 1
  skipBits 1
  let vuiParametersPresentFlag ← readBit
  let vui ← optionally vuiParametersPresentFlag (readVui checks)
  return vui.getD (none, 0.0)

def read (checks : OverflowChecks) : BitReader Sps := do
  let ((width, height), numShortTermRefPicSets) ← readFront checks
  let _ ← between (allocate numShortTermRefPicSets)
  skipRefPicSets checks numShortTermRefPicSets none
  let (colorConfig, frameRate) ← readBack checks
  return ⟨UInt64.ofNat width, UInt64.ofNat height, frameRate, colorConfig⟩

/-- The bytes of the unit without emulation prevention. -/
def unescaped (data : Bytes) : Except IoFault Bytes := unescape data

def parse (checks : OverflowChecks) (data : Bytes) : Except IoFault Sps := do
  let bytes ← unescaped data
  let (sps, _) ← (run (read checks)).parse bytes
  return sps

end Sps

end ScuffleVideo.H265
