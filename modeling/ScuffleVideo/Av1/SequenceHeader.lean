import ScuffleVideo.Av1.Uvlc

/-!
# AV1 sequence headers

The reader of sequence header units: the profile, the operating points with their timing, the size
of the frames, the coding tools and the colours.  A field that is not there has the value that the
reader puts in its place.
-/

namespace ScuffleVideo.Av1

open Wire BitReader

/-- The type of a unit. -/
inductive ObuType where
  | sequenceHeader
  | temporalDelimiter
  | frameHeader
  | tileGroup
  | metadata
  | frame
  | redundantFrameHeader
  | tileList
  | padding
  | reserved (value : UInt8)
  deriving DecidableEq, Repr

structure ObuExtensionHeader where
  temporalId : UInt8
  spatialId : UInt8
  deriving DecidableEq, Repr

structure ObuHeader where
  obuType : ObuType
  size : Option UInt64
  extensionHeader : Option ObuExtensionHeader
  deriving DecidableEq, Repr

/-! ## Fields -/

/-- Some bits as a byte. -/
def readByte (count : Nat) : BitReader UInt8 := do return (← readBits count).toUInt8

/-- A field that is there or has a default. -/
def readOr {α : Type} (present : Bool) (absent : α) (reader : BitReader α) : BitReader α :=
  if present then reader else pure absent

/-- A field behind a flag that says if it is there. -/
def readFlagged {α : Type} (reader : BitReader α) : BitReader (Option α) := do
  let present ← readBit
  optionally present reader

structure TimingInfo where
  numUnitsInDisplayTick : UInt32
  timeScale : UInt32
  numTicksPerPicture : Option UInt64
  deriving DecidableEq, Repr

def TimingInfo.parse (checks : OverflowChecks) : BitReader TimingInfo := do
  let numUnitsInDisplayTick ← readU32
  let timeScale ← readU32
  let numTicksPerPicture ← readFlagged (do return (← readUvlc checks) + 1)
  return ⟨numUnitsInDisplayTick, timeScale, numTicksPerPicture⟩

structure DecoderModelInfo where
  bufferDelayLength : UInt8
  numUnitsInDecodingTick : UInt32
  bufferRemovalTimeLength : UInt8
  framePresentationTimeLength : UInt8
  deriving DecidableEq, Repr

def DecoderModelInfo.parse : BitReader DecoderModelInfo := do
  let bufferDelayLength ← readByte 5
  let numUnitsInDecodingTick ← readU32
  let bufferRemovalTimeLength ← readByte 5
  let framePresentationTimeLength ← readByte 5
  return ⟨bufferDelayLength + 1, numUnitsInDecodingTick, bufferRemovalTimeLength + 1,
    framePresentationTimeLength + 1⟩

structure OperatingParametersInfo where
  decoderBufferDelay : UInt64
  encoderBufferDelay : UInt64
  lowDelayModeFlag : Bool
  deriving DecidableEq, Repr

def OperatingParametersInfo.parse (delayBitLength : UInt8) : BitReader OperatingParametersInfo := do
  let decoderBufferDelay ← readBits delayBitLength.toNat
  let encoderBufferDelay ← readBits delayBitLength.toNat
  let lowDelayModeFlag ← readBit
  return ⟨decoderBufferDelay, encoderBufferDelay, lowDelayModeFlag⟩

structure OperatingPoint where
  idc : UInt16
  seqLevelIdx : UInt8
  seqTier : Bool
  operatingParametersInfo : Option OperatingParametersInfo
  initialDisplayDelay : Option UInt8
  deriving DecidableEq, Repr

/-- The parameters of an operating point, if the decoder model is there. -/
def readParameters : Option DecoderModelInfo → BitReader (Option OperatingParametersInfo)
  | none => pure none
  | some model => readFlagged (OperatingParametersInfo.parse model.bufferDelayLength)

def OperatingPoint.parse (model : Option DecoderModelInfo) (delayPresent : Bool) :
    BitReader OperatingPoint := do
  let idc ← readBits 12
  let seqLevelIdx ← readByte 5
  let seqTier ← readOr (decide (7 < seqLevelIdx)) false readBit
  let operatingParametersInfo ← readParameters model
  let initialDisplayDelay ← readOr delayPresent none (readFlagged (do return (← readByte 4) + 1))
  return ⟨idc.toUInt16, seqLevelIdx, seqTier, operatingParametersInfo, initialDisplayDelay⟩

/-! ## Colours -/

structure ColorConfig where
  bitDepth : Int
  monoChrome : Bool
  numPlanes : UInt8
  colorPrimaries : UInt8
  transferCharacteristics : UInt8
  matrixCoefficients : UInt8
  fullColorRange : Bool
  subsamplingX : Bool
  subsamplingY : Bool
  chromaSamplePosition : UInt8
  separateUvDeltaQ : Bool
  deriving DecidableEq, Repr

structure ColorRangeAndSubsampling where
  colorRange : Bool
  subsamplingX : Bool
  subsamplingY : Bool
  deriving DecidableEq, Repr

namespace ColorConfig

/-- Only profile 2 has twelve bits. -/
def readBitDepth (seqProfile : UInt8) : BitReader Int := do
  let highBitdepth ← readBit
  if highBitdepth then do
    let twelveBit ← readOr (seqProfile == 2) false readBit
    return if twelveBit then 12 else 10
  else return 8

/-- Primaries, transfer characteristics and matrix coefficients. -/
def readDescription : BitReader (UInt8 × UInt8 × UInt8) := do
  let colorPrimaries ← readByte 8
  let transferCharacteristics ← readByte 8
  let matrixCoefficients ← readByte 8
  return (colorPrimaries, transferCharacteristics, matrixCoefficients)

/-- Subsampling that depends on the profile, or is there with twelve bits. -/
def readSubsampling (seqProfile : UInt8) (bitDepth : Int) : BitReader (Bool × Bool) :=
  if seqProfile = 0 then pure (true, true)
  else if seqProfile = 1 then pure (false, false)
  else if bitDepth = 12 then do
    let subsamplingX ← readBit
    let subsamplingY ← readOr subsamplingX false readBit
    return (subsamplingX, subsamplingY)
  else pure (true, false)

/-- The range and subsampling of red, green and blue are known. -/
def parseColorRangeAndSubsampling (seqProfile colorPrimaries transferCharacteristics
    matrixCoefficients : UInt8) (bitDepth : Int) : BitReader ColorRangeAndSubsampling :=
  if colorPrimaries = 1 ∧ transferCharacteristics = 13 ∧ matrixCoefficients = 0 then
    pure ⟨true, false, false⟩
  else do
    let colorRange ← readBit
    let (subsamplingX, subsamplingY) ← readSubsampling seqProfile bitDepth
    return ⟨colorRange, subsamplingX, subsamplingY⟩

/-- What stands behind the description of the colours. -/
def readPlanes (seqProfile : UInt8) (bitDepth : Int) (monoChrome : Bool)
    (description : UInt8 × UInt8 × UInt8) : BitReader ColorConfig :=
  let (colorPrimaries, transferCharacteristics, matrixCoefficients) := description
  if monoChrome then do
    let fullColorRange ← readBit
    return ⟨bitDepth, true, 1, colorPrimaries, transferCharacteristics, matrixCoefficients,
      fullColorRange, true, true, 0, false⟩
  else do
    let range ← parseColorRangeAndSubsampling seqProfile colorPrimaries transferCharacteristics
      matrixCoefficients bitDepth
    let chromaSamplePosition ← readOr (range.subsamplingX && range.subsamplingY) 0 (readByte 2)
    let separateUvDeltaQ ← readBit
    return ⟨bitDepth, false, 3, colorPrimaries, transferCharacteristics, matrixCoefficients,
      range.colorRange, range.subsamplingX, range.subsamplingY, chromaSamplePosition,
      separateUvDeltaQ⟩

/-- Colours that are not described are unspecified, which is 2. -/
def parse (seqProfile : UInt8) : BitReader ColorConfig := do
  let bitDepth ← readBitDepth seqProfile
  let monoChrome ← readOr (seqProfile != 1) false readBit
  let described ← readBit
  let description ← readOr described (2, 2, 2) readDescription
  readPlanes seqProfile bitDepth monoChrome description

end ColorConfig

/-! ## The header -/

structure FrameIds where
  deltaFrameIdLength : UInt8
  additionalFrameIdLength : UInt8
  deriving DecidableEq, Repr

structure SequenceHeaderObu where
  header : ObuHeader
  seqProfile : UInt8
  stillPicture : Bool
  reducedStillPictureHeader : Bool
  timingInfo : Option TimingInfo
  decoderModelInfo : Option DecoderModelInfo
  operatingPoints : List OperatingPoint
  maxFrameWidth : UInt64
  maxFrameHeight : UInt64
  frameIds : Option FrameIds
  use128x128Superblock : Bool
  enableFilterIntra : Bool
  enableIntraEdgeFilter : Bool
  enableInterintraCompound : Bool
  enableMaskedCompound : Bool
  enableWarpedMotion : Bool
  enableDualFilter : Bool
  enableOrderHint : Bool
  enableJntComp : Bool
  enableRefFrameMvs : Bool
  seqForceScreenContentTools : UInt8
  seqForceIntegerMv : UInt8
  orderHintBits : UInt8
  enableSuperres : Bool
  enableCdef : Bool
  enableRestoration : Bool
  colorConfig : ColorConfig
  filmGrainParamsPresent : Bool
  deriving DecidableEq, Repr

/-- The tools that a reduced header does not have. -/
structure InterTools where
  enableInterintraCompound : Bool
  enableMaskedCompound : Bool
  enableWarpedMotion : Bool
  enableDualFilter : Bool
  enableOrderHint : Bool
  enableJntComp : Bool
  enableRefFrameMvs : Bool
  seqForceScreenContentTools : UInt8
  seqForceIntegerMv : UInt8
  orderHintBits : UInt8
  deriving DecidableEq, Repr

namespace SequenceHeaderObu

/-- What a header says in front of the size of the frames. -/
abbrev Points := Option TimingInfo × Option DecoderModelInfo × List OperatingPoint

/-- A reduced header has one operating point. -/
def readReducedPoints : BitReader Points := do
  let seqLevelIdx ← readByte 5
  return (none, none, [⟨0, seqLevelIdx, false, none, none⟩])

/-- The decoder model stands behind the timing. -/
def readTiming (checks : OverflowChecks) : BitReader (TimingInfo × Option DecoderModelInfo) := do
  let timingInfo ← TimingInfo.parse checks
  let decoderModelInfo ← readFlagged DecoderModelInfo.parse
  return (timingInfo, decoderModelInfo)

def readPoints (checks : OverflowChecks) : BitReader Points := do
  let timing ← readFlagged (readTiming checks)
  let decoderModelInfo := timing.bind Prod.snd
  let initialDisplayDelayPresent ← readBit
  let operatingPointsCntMinus1 ← readByte 5
  let operatingPoints ← repeatedly (OperatingPoint.parse decoderModelInfo initialDisplayDelayPresent)
    (operatingPointsCntMinus1 + 1).toNat
  return (timing.map Prod.fst, decoderModelInfo, operatingPoints)

def readFrameIds : BitReader FrameIds := do
  let deltaFrameIdLength ← readByte 4
  let additionalFrameIdLength ← readByte 3
  return ⟨deltaFrameIdLength + 2, additionalFrameIdLength + 1⟩

/-- The tools for pairs of frames, which an order hint needs. -/
def readPairTools : BitReader (Bool × Bool) := do
  let enableJntComp ← readBit
  let enableRefFrameMvs ← readBit
  return (enableJntComp, enableRefFrameMvs)

/-- A choice of the frames, which is 2, or a choice for all of them. -/
def readChoice : BitReader UInt8 := do
  let chosen ← readBit
  readOr (!chosen) 2 (readByte 1)

def readInterTools : BitReader InterTools := do
  let enableInterintraCompound ← readBit
  let enableMaskedCompound ← readBit
  let enableWarpedMotion ← readBit
  let enableDualFilter ← readBit
  let enableOrderHint ← readBit
  let (enableJntComp, enableRefFrameMvs) ← readOr enableOrderHint (false, false) readPairTools
  let seqForceScreenContentTools ← readChoice
  let seqForceIntegerMv ← readOr (seqForceScreenContentTools != 0) 2 readChoice
  let orderHintBits ← readOr enableOrderHint 0 (do return (← readByte 3) + 1)
  return ⟨enableInterintraCompound, enableMaskedCompound, enableWarpedMotion, enableDualFilter,
    enableOrderHint, enableJntComp, enableRefFrameMvs, seqForceScreenContentTools, seqForceIntegerMv,
    orderHintBits⟩

/-- The tools of a reduced header. -/
def reducedTools : InterTools := ⟨false, false, false, false, false, false, false, 2, 2, 0⟩

def readFields (checks : OverflowChecks) (header : ObuHeader) : BitReader SequenceHeaderObu := do
  let seqProfile ← readByte 3
  let stillPicture ← readBit
  let reduced ← readBit
  refuse (!stillPicture && reduced) "reduced_still_picture_header is true but still_picture is false"
  let (timingInfo, decoderModelInfo, operatingPoints) ←
    (if reduced then readReducedPoints else readPoints checks : BitReader Points)
  let frameWidthBits ← readByte 4
  let frameHeightBits ← readByte 4
  let maxFrameWidth ← readBits (frameWidthBits + 1).toNat
  let maxFrameHeight ← readBits (frameHeightBits + 1).toNat
  let frameIds ← readOr (!reduced) none (readFlagged readFrameIds)
  let use128x128Superblock ← readBit
  let enableFilterIntra ← readBit
  let enableIntraEdgeFilter ← readBit
  let tools ← readOr (!reduced) reducedTools readInterTools
  let enableSuperres ← readBit
  let enableCdef ← readBit
  let enableRestoration ← readBit
  let colorConfig ← ColorConfig.parse seqProfile
  let filmGrainParamsPresent ← readBit
  return {
    header, seqProfile, stillPicture, reducedStillPictureHeader := reduced
    timingInfo, decoderModelInfo, operatingPoints
    maxFrameWidth := maxFrameWidth + 1
    maxFrameHeight := maxFrameHeight + 1
    frameIds, use128x128Superblock, enableFilterIntra, enableIntraEdgeFilter
    enableInterintraCompound := tools.enableInterintraCompound
    enableMaskedCompound := tools.enableMaskedCompound
    enableWarpedMotion := tools.enableWarpedMotion
    enableDualFilter := tools.enableDualFilter
    enableOrderHint := tools.enableOrderHint
    enableJntComp := tools.enableJntComp
    enableRefFrameMvs := tools.enableRefFrameMvs
    seqForceScreenContentTools := tools.seqForceScreenContentTools
    seqForceIntegerMv := tools.seqForceIntegerMv
    orderHintBits := tools.orderHintBits
    enableSuperres, enableCdef, enableRestoration, colorConfig, filmGrainParamsPresent }

def parse (checks : OverflowChecks) (header : ObuHeader) : Reader IoFault SequenceHeaderObu := do
  let (obu, _) ← run (readFields checks header)
  return obu

end SequenceHeaderObu

end ScuffleVideo.Av1
