import ScuffleVideo.Av1.SequenceHeader

/-!
# The layout of AV1 sequence headers

The syntax of section 5.5 of the specification: which fields stand in a header, behind which others,
and with how many bits.  A field that is absent has the value that the specification infers for it.
The reader follows the layout, so every header is read as what it says.
-/

namespace ScuffleVideo.Av1

open Wire BitReader

/-! ## Fields that may be absent -/

section

variable {α β : Type} {reader : BitReader α}

theorem decodes_readByte {count : Nat} {number : UInt8} (narrow : count ≤ 64)
    (small : number.toNat < 2 ^ count) :
    Decodes (readByte count) (toBits count number.toNat) number := by
  have decodes := (Decodes.readBits narrow small).map UInt64.toUInt8
  rw [toUInt8_ofNat] at decodes
  exact decodes

theorem decodes_number {count : Nat} {number : UInt64} (narrow : count ≤ 64)
    (small : number.toNat < 2 ^ count) :
    Decodes (readBits count) (toBits count number.toNat) number := by
  have decodes := Decodes.readBits narrow small
  rw [UInt64.ofNat_toNat] at decodes
  exact decodes

theorem decodes_readOr {bits : List Bool} {value : α} (present : Bool) (absent : α)
    (read : present = true → Decodes reader bits value) :
    Decodes (readOr present absent reader) (if present then bits else [])
      (if present then value else absent) := by
  cases present with
  | true => exact read rfl
  | false => exact Decodes.pure absent

theorem decodes_readFlagged {reader : BitReader β} {encode : α → List Bool} {means : α → β}
    (value : Option α) (each : ∀ inner ∈ value, Decodes reader (encode inner) (means inner)) :
    Decodes (readFlagged reader) ([value.isSome] ++ value.elim [] encode) (value.map means) :=
  (Decodes.readBit value.isSome).bind (decodes_optional each)

/-- The successor of a small byte. -/
theorem toNat_succ {number : UInt8} (small : number.toNat < 2 ^ 5) :
    (number + 1).toNat = number.toNat + 1 := by
  rw [UInt8.toNat_add]
  change (number.toNat + 1) % 256 = _
  omega

end

/-! ## Numbers of variable length -/

theorem decodes_leadingZeros (checks : OverflowChecks) {count : Nat} (small : count < 2 ^ 8) :
    Decodes (leadingZeros checks) (List.replicate count false ++ [true]) count := by
  intro buffer before after position state whole standing
  have steps (zeros : Nat) (few : zeros < count) : asU8 checks (zeros + 1) = pure (zeros + 1) :=
    if_pos (by omega)
  have zeros := @Decodes.tally Nat (fun zeros => asU8 checks (zeros + 1)) count _ id steps
    (zeros_lt_rounds whole)
  exact zeros buffer before after position state whole standing

/-- The numbers below the largest one of 32 bits are coded as by exponential Golomb codes. -/
theorem decodes_readUvlc (checks : OverflowChecks) {number : UInt64}
    (small : number.toNat < 2 ^ 32 - 1) :
    Decodes (readUvlc checks) (ueBits number.toNat) number := by
  have positive : number.toNat + 1 ≠ 0 := Nat.succ_ne_zero _
  have few : Nat.log2 (number.toNat + 1) < 32 := (Nat.log2_lt positive).mpr (by omega)
  have low := Nat.log2_self_le positive
  have high := Nat.lt_log2_self (n := number.toNat + 1)
  rw [Nat.pow_succ] at high
  have remainder : (number.toNat + 1) % 2 ^ Nat.log2 (number.toNat + 1) =
      number.toNat + 1 - 2 ^ Nat.log2 (number.toNat + 1) := by
    rw [Nat.mod_eq_sub_mod low, Nat.mod_eq_of_lt (by omega)]
  have digits : Decodes (readBits (Nat.log2 (number.toNat + 1)))
      (toBits (Nat.log2 (number.toNat + 1)) (number.toNat + 1)) _ :=
    Decodes.of_takes (Takes.readBits _) (by rw [length_toBits, Nat.min_eq_left (by omega)])
  rw [ofBits_toBits, remainder] at digits
  have sum : number.toNat + 1 - 2 ^ Nat.log2 (number.toNat + 1) + 2 ^ Nat.log2 (number.toNat + 1) - 1 =
      number.toNat := by omega
  rw [ueBits, ← List.append_assoc]
  refine (decodes_leadingZeros checks (by omega)).bind ?_
  rw [if_neg (Nat.not_le.mpr few)]
  refine digits.finish ?_
  rw [add_offset few (by omega), sum, UInt64.ofNat_toNat]
  exact Decodes.pure number

/-! ## Timing -/

structure TimingFields where
  numUnitsInDisplayTick : UInt32
  timeScale : UInt32
  numTicksPerPictureMinus1 : Option UInt64
  deriving DecidableEq, Repr

namespace TimingFields

def bits (fields : TimingFields) : List Bool :=
  bytesBits (beU32 fields.numUnitsInDisplayTick) ++ (bytesBits (beU32 fields.timeScale) ++
  ([fields.numTicksPerPictureMinus1.isSome] ++
    fields.numTicksPerPictureMinus1.elim [] fun ticks => ueBits ticks.toNat))

def Fits (fields : TimingFields) : Prop :=
  ∀ ticks ∈ fields.numTicksPerPictureMinus1, ticks.toNat < 2 ^ 32 - 1

def value (fields : TimingFields) : TimingInfo :=
  ⟨fields.numUnitsInDisplayTick, fields.timeScale, fields.numTicksPerPictureMinus1.map (· + 1)⟩

theorem decodes (checks : OverflowChecks) {fields : TimingFields} (fits : fields.Fits) :
    Decodes (TimingInfo.parse checks) fields.bits fields.value := by
  refine (Decodes.readU32 fields.numUnitsInDisplayTick).bind ?_
  refine (Decodes.readU32 fields.timeScale).bind ?_
  have ticks := decodes_readFlagged fields.numTicksPerPictureMinus1 fun ticks there =>
    (decodes_readUvlc checks (fits ticks there)).map (· + 1)
  exact ticks.finish (Decodes.pure _)

end TimingFields

structure DecoderModelFields where
  bufferDelayLengthMinus1 : UInt8
  numUnitsInDecodingTick : UInt32
  bufferRemovalTimeLengthMinus1 : UInt8
  framePresentationTimeLengthMinus1 : UInt8
  deriving DecidableEq, Repr

namespace DecoderModelFields

def bits (fields : DecoderModelFields) : List Bool :=
  toBits 5 fields.bufferDelayLengthMinus1.toNat ++ (bytesBits (beU32 fields.numUnitsInDecodingTick) ++
  (toBits 5 fields.bufferRemovalTimeLengthMinus1.toNat ++
  toBits 5 fields.framePresentationTimeLengthMinus1.toNat))

structure Fits (fields : DecoderModelFields) : Prop where
  bufferDelayLength : fields.bufferDelayLengthMinus1.toNat < 2 ^ 5
  bufferRemovalTimeLength : fields.bufferRemovalTimeLengthMinus1.toNat < 2 ^ 5
  framePresentationTimeLength : fields.framePresentationTimeLengthMinus1.toNat < 2 ^ 5

def value (fields : DecoderModelFields) : DecoderModelInfo :=
  ⟨fields.bufferDelayLengthMinus1 + 1, fields.numUnitsInDecodingTick,
    fields.bufferRemovalTimeLengthMinus1 + 1, fields.framePresentationTimeLengthMinus1 + 1⟩

theorem decodes {fields : DecoderModelFields} (fits : fields.Fits) :
    Decodes DecoderModelInfo.parse fields.bits fields.value := by
  refine (decodes_readByte (by decide) fits.bufferDelayLength).bind ?_
  refine (Decodes.readU32 fields.numUnitsInDecodingTick).bind ?_
  refine (decodes_readByte (by decide) fits.bufferRemovalTimeLength).bind ?_
  exact (decodes_readByte (by decide) fits.framePresentationTimeLength).finish (Decodes.pure _)

end DecoderModelFields

/-! ## Operating points -/

/-- The delays have as many bits as the decoder model says. -/
def parametersBits (width : Nat) (parameters : OperatingParametersInfo) : List Bool :=
  toBits width parameters.decoderBufferDelay.toNat ++
  (toBits width parameters.encoderBufferDelay.toNat ++ [parameters.lowDelayModeFlag])

structure PointFields where
  operatingPointIdc : UInt16
  seqLevelIdx : UInt8
  seqTier : Bool
  parameters : Option OperatingParametersInfo
  initialDisplayDelayMinus1 : Option UInt8
  deriving DecidableEq, Repr

namespace PointFields

def bits (model : Option DecoderModelFields) (delayPresent : Bool) (point : PointFields) : List Bool :=
  toBits 12 point.operatingPointIdc.toNat ++ (toBits 5 point.seqLevelIdx.toNat ++
  ((if decide (7 < point.seqLevelIdx) then [point.seqTier] else []) ++
  ((model.elim [] fun model => [point.parameters.isSome] ++
    point.parameters.elim [] (parametersBits (model.bufferDelayLengthMinus1.toNat + 1))) ++
  (if delayPresent then [point.initialDisplayDelayMinus1.isSome] ++
    point.initialDisplayDelayMinus1.elim [] fun delay => toBits 4 delay.toNat else []))))

structure Fits (model : Option DecoderModelFields) (point : PointFields) : Prop where
  operatingPointIdc : point.operatingPointIdc.toNat < 2 ^ 12
  seqLevelIdx : point.seqLevelIdx.toNat < 2 ^ 5
  decoderBufferDelay : ∀ known ∈ model, ∀ parameters ∈ point.parameters,
    parameters.decoderBufferDelay.toNat < 2 ^ (known.bufferDelayLengthMinus1.toNat + 1)
  encoderBufferDelay : ∀ known ∈ model, ∀ parameters ∈ point.parameters,
    parameters.encoderBufferDelay.toNat < 2 ^ (known.bufferDelayLengthMinus1.toNat + 1)
  initialDisplayDelay : ∀ delay ∈ point.initialDisplayDelayMinus1, delay.toNat < 2 ^ 4

/-- A tier stands behind high levels only, and is the main one elsewhere. -/
def value (model : Option DecoderModelFields) (delayPresent : Bool) (point : PointFields) :
    OperatingPoint where
  idc := point.operatingPointIdc
  seqLevelIdx := point.seqLevelIdx
  seqTier := if decide (7 < point.seqLevelIdx) then point.seqTier else false
  operatingParametersInfo := model.bind fun _ => point.parameters
  initialDisplayDelay := if delayPresent then point.initialDisplayDelayMinus1.map (· + 1) else none

theorem decodes_parameters {width : UInt8} {parameters : OperatingParametersInfo}
    (narrow : width.toNat ≤ 64) (decoder : parameters.decoderBufferDelay.toNat < 2 ^ width.toNat)
    (encoder : parameters.encoderBufferDelay.toNat < 2 ^ width.toNat) :
    Decodes (OperatingParametersInfo.parse width) (parametersBits width.toNat parameters)
      parameters := by
  refine (decodes_number narrow decoder).bind ?_
  refine (decodes_number narrow encoder).bind ?_
  exact (Decodes.readBit parameters.lowDelayModeFlag).finish (Decodes.pure _)

theorem decodes_readParameters {model : Option DecoderModelFields} {point : PointFields}
    (modelFits : ∀ known ∈ model, known.Fits) (fits : point.Fits model) :
    Decodes (readParameters (model.map DecoderModelFields.value))
      (model.elim [] fun model => [point.parameters.isSome] ++
        point.parameters.elim [] (parametersBits (model.bufferDelayLengthMinus1.toNat + 1)))
      (model.bind fun _ => point.parameters) := by
  cases model with
  | none => exact Decodes.pure none
  | some model =>
      have small := (modelFits model rfl).bufferDelayLength
      have width : model.value.bufferDelayLength.toNat = model.bufferDelayLengthMinus1.toNat + 1 :=
        toNat_succ small
      have read := @decodes_readFlagged _ _ (OperatingParametersInfo.parse model.value.bufferDelayLength)
        (parametersBits (model.bufferDelayLengthMinus1.toNat + 1)) id point.parameters
        fun parameters there => by
          have decoder := fits.decoderBufferDelay model rfl parameters there
          have encoder := fits.encoderBufferDelay model rfl parameters there
          rw [← width] at decoder encoder ⊢
          exact decodes_parameters (by rw [width]; omega) decoder encoder
      rw [Option.map_id] at read
      exact read

theorem decodes {model : Option DecoderModelFields} {delayPresent : Bool} {point : PointFields}
    (modelFits : ∀ known ∈ model, known.Fits) (fits : point.Fits model) :
    Decodes (OperatingPoint.parse (model.map DecoderModelFields.value) delayPresent)
      (point.bits model delayPresent) (point.value model delayPresent) := by
  have idc : (UInt64.ofNat point.operatingPointIdc.toNat).toUInt16 = point.operatingPointIdc := by
    rw [← UInt16.toNat_inj, UInt64.toNat_toUInt16, UInt64.toNat_ofNat']
    have small := point.operatingPointIdc.toNat_lt
    omega
  refine (Decodes.readBits (by decide) fits.operatingPointIdc).bind ?_
  rw [idc]
  refine (decodes_readByte (by decide) fits.seqLevelIdx).bind ?_
  refine (decodes_readOr _ false fun _ => Decodes.readBit point.seqTier).bind ?_
  refine (decodes_readParameters modelFits fits).bind ?_
  have delay := decodes_readFlagged point.initialDisplayDelayMinus1 fun delay there =>
    (decodes_readByte (by decide) (fits.initialDisplayDelay delay there)).map (· + 1)
  exact (decodes_readOr delayPresent none fun _ => delay).finish (Decodes.pure _)

end PointFields

/-! ## Colours -/

structure ColorFields where
  highBitdepth : Bool
  twelveBit : Bool
  monoChrome : Bool
  description : Option (UInt8 × UInt8 × UInt8)
  colorRange : Bool
  subsamplingX : Bool
  subsamplingY : Bool
  chromaSamplePosition : UInt8
  separateUvDeltaQ : Bool
  deriving DecidableEq, Repr

namespace ColorFields

variable (profile : UInt8) (fields : ColorFields)

def bitDepth : Int :=
  if fields.highBitdepth then (if (profile == 2) && fields.twelveBit then 12 else 10) else 8

/-- Profile 1 has colours. -/
def isMonoChrome : Bool := (profile != 1) && fields.monoChrome

/-- Colours that are not described are unspecified. -/
def described : UInt8 × UInt8 × UInt8 := fields.description.getD (2, 2, 2)

/-- Red, green and blue: the primaries of BT.709, the transfer characteristics of sRGB and the
identity for the matrix. -/
def isIdentity : Bool := decide (fields.described = (1, 13, 0))

/-- How both directions are subsampled. -/
def subsampling : Bool × Bool :=
  if fields.isIdentity then (false, false)
  else if profile = 0 then (true, true)
  else if profile = 1 then (false, false)
  else if fields.bitDepth profile = 12 then
    (fields.subsamplingX, fields.subsamplingX && fields.subsamplingY)
  else (true, false)

/-- The bits that say how both directions are subsampled. -/
def subsamplingBits : List Bool :=
  if profile = 0 then []
  else if profile = 1 then []
  else if fields.bitDepth profile = 12 then
    [fields.subsamplingX] ++ (if fields.subsamplingX then [fields.subsamplingY] else [])
  else []

def planeBits : List Bool :=
  if fields.isMonoChrome profile then [fields.colorRange]
  else (if fields.isIdentity then [] else [fields.colorRange] ++ fields.subsamplingBits profile) ++
    ((if (fields.subsampling profile).1 && (fields.subsampling profile).2 then
      toBits 2 fields.chromaSamplePosition.toNat else []) ++ [fields.separateUvDeltaQ])

def descriptionBits (description : UInt8 × UInt8 × UInt8) : List Bool :=
  toBits 8 description.1.toNat ++ (toBits 8 description.2.1.toNat ++ toBits 8 description.2.2.toNat)

def bits : List Bool :=
  [fields.highBitdepth] ++
  ((if fields.highBitdepth then (if profile == 2 then [fields.twelveBit] else []) else []) ++
  ((if profile != 1 then [fields.monoChrome] else []) ++
  ([fields.description.isSome] ++ (fields.description.elim [] descriptionBits ++
  fields.planeBits profile))))

def Fits : Prop := fields.chromaSamplePosition.toNat < 2 ^ 2

def value : ColorConfig :=
  if fields.isMonoChrome profile then
    { bitDepth := fields.bitDepth profile
      monoChrome := true
      numPlanes := 1
      colorPrimaries := fields.described.1
      transferCharacteristics := fields.described.2.1
      matrixCoefficients := fields.described.2.2
      fullColorRange := fields.colorRange
      subsamplingX := true
      subsamplingY := true
      chromaSamplePosition := 0
      separateUvDeltaQ := false }
  else
    { bitDepth := fields.bitDepth profile
      monoChrome := false
      numPlanes := 3
      colorPrimaries := fields.described.1
      transferCharacteristics := fields.described.2.1
      matrixCoefficients := fields.described.2.2
      fullColorRange := if fields.isIdentity then true else fields.colorRange
      subsamplingX := (fields.subsampling profile).1
      subsamplingY := (fields.subsampling profile).2
      chromaSamplePosition := if (fields.subsampling profile).1 && (fields.subsampling profile).2 then
        fields.chromaSamplePosition else 0
      separateUvDeltaQ := fields.separateUvDeltaQ }

theorem decodes_bitDepth : Decodes (ColorConfig.readBitDepth profile)
    ([fields.highBitdepth] ++
      (if fields.highBitdepth then (if profile == 2 then [fields.twelveBit] else []) else []))
    (fields.bitDepth profile) := by
  refine (Decodes.readBit fields.highBitdepth).bind ?_
  unfold bitDepth
  cases fields.highBitdepth with
  | false => exact Decodes.pure 8
  | true =>
      refine (decodes_readOr (profile == 2) false fun _ => Decodes.readBit fields.twelveBit).finish ?_
      cases profile == 2 with
      | false => exact Decodes.pure 10
      | true => exact Decodes.pure _

theorem decodes_description {description : UInt8 × UInt8 × UInt8} :
    Decodes ColorConfig.readDescription (descriptionBits description) description := by
  refine (decodes_readByte (by decide) description.1.toNat_lt).bind ?_
  refine (decodes_readByte (by decide) description.2.1.toNat_lt).bind ?_
  exact (decodes_readByte (by decide) description.2.2.toNat_lt).finish (Decodes.pure _)

theorem decodes_subsampling (other : fields.isIdentity = false) :
    Decodes (ColorConfig.readSubsampling profile (fields.bitDepth profile))
      (fields.subsamplingBits profile) (fields.subsampling profile) := by
  unfold ColorConfig.readSubsampling subsamplingBits subsampling
  rw [other, if_neg Bool.false_ne_true]
  split
  · exact Decodes.pure _
  · split
    · exact Decodes.pure _
    · split
      · refine (Decodes.readBit fields.subsamplingX).bind ?_
        refine (decodes_readOr fields.subsamplingX false fun _ =>
          Decodes.readBit fields.subsamplingY).finish ?_
        cases fields.subsamplingX with
        | false => exact Decodes.pure _
        | true => exact Decodes.pure _
      · exact Decodes.pure _

theorem decodes_range : Decodes
    (ColorConfig.parseColorRangeAndSubsampling profile fields.described.1 fields.described.2.1
      fields.described.2.2 (fields.bitDepth profile))
    (if fields.isIdentity then [] else [fields.colorRange] ++ fields.subsamplingBits profile)
    ⟨if fields.isIdentity then true else fields.colorRange, (fields.subsampling profile).1,
      (fields.subsampling profile).2⟩ := by
  have named : (fields.described.1 = 1 ∧ fields.described.2.1 = 13 ∧ fields.described.2.2 = 0) ↔
      fields.isIdentity = true := by
    rw [isIdentity, decide_eq_true_iff, Prod.ext_iff, Prod.ext_iff]
  unfold ColorConfig.parseColorRangeAndSubsampling
  by_cases identity : fields.isIdentity = true
  · rw [if_pos (named.mpr identity), if_pos identity, if_pos identity, subsampling, if_pos identity]
    exact Decodes.pure _
  · rw [if_neg fun shown => identity (named.mp shown), if_neg identity, if_neg identity]
    refine (Decodes.readBit fields.colorRange).bind ?_
    exact (fields.decodes_subsampling profile (Bool.eq_false_of_not_eq_true identity)).finish
      (Decodes.pure _)

theorem decodes_planes (fits : fields.Fits) : Decodes
    (ColorConfig.readPlanes profile (fields.bitDepth profile) (fields.isMonoChrome profile)
      fields.described)
    (fields.planeBits profile) (fields.value profile) := by
  unfold ColorConfig.readPlanes planeBits value
  cases fields.isMonoChrome profile with
  | true => exact (Decodes.readBit fields.colorRange).finish (Decodes.pure _)
  | false =>
      refine (fields.decodes_range profile).bind ?_
      refine (decodes_readOr _ 0 fun _ => decodes_readByte (by decide) fits).bind ?_
      exact (Decodes.readBit fields.separateUvDeltaQ).finish (Decodes.pure _)

theorem decodes (fits : fields.Fits) :
    Decodes (ColorConfig.parse profile) (fields.bits profile) (fields.value profile) := by
  have mono : (if profile != 1 then fields.monoChrome else false) = fields.isMonoChrome profile := by
    unfold isMonoChrome
    cases profile != 1 <;> rfl
  unfold bits
  rw [← List.append_assoc]
  refine (fields.decodes_bitDepth profile).bind ?_
  refine (decodes_readOr (profile != 1) false fun _ => Decodes.readBit fields.monoChrome).bind ?_
  rw [mono]
  refine (Decodes.readBit fields.description.isSome).bind ?_
  have planes := fields.decodes_planes profile fits
  unfold described at planes
  cases found : fields.description with
  | none =>
      rw [found] at planes
      exact (Decodes.pure _).bind planes
  | some description =>
      rw [found] at planes
      exact decodes_description.bind planes

end ColorFields

/-! ## Coding tools -/

structure OrderHintFields where
  enableJntComp : Bool
  enableRefFrameMvs : Bool
  orderHintBitsMinus1 : UInt8
  deriving DecidableEq, Repr

structure ToolFields where
  enableInterintraCompound : Bool
  enableMaskedCompound : Bool
  enableWarpedMotion : Bool
  enableDualFilter : Bool
  orderHint : Option OrderHintFields
  /-- A choice for all frames, if they do not choose. -/
  forceScreenContentTools : Option Bool
  forceIntegerMv : Option Bool
  deriving DecidableEq, Repr

/-- The flag of a choice and the choice for all frames. -/
def choiceBits (choice : Option Bool) : List Bool := [choice.isNone] ++ choice.elim [] fun forced => [forced]

def choiceValue (choice : Option Bool) : UInt8 := choice.elim 2 fun forced => UInt8.ofNat forced.toNat

theorem decodes_choice (choice : Option Bool) :
    Decodes SequenceHeaderObu.readChoice (choiceBits choice) (choiceValue choice) := by
  refine (Decodes.readBit choice.isNone).bind ?_
  cases choice with
  | none => exact Decodes.pure 2
  | some forced =>
      have read := @decodes_readByte 1 (UInt8.ofNat forced.toNat) (by decide) (by cases forced <;> decide)
      cases forced with
      | false => exact read
      | true => exact read

namespace ToolFields

/-- Motion vectors are of whole pixels only with tools for screen content. -/
def bits (fields : ToolFields) : List Bool :=
  [fields.enableInterintraCompound] ++ ([fields.enableMaskedCompound] ++
  ([fields.enableWarpedMotion] ++ ([fields.enableDualFilter] ++ ([fields.orderHint.isSome] ++
  ((fields.orderHint.elim [] fun hint => [hint.enableJntComp] ++ [hint.enableRefFrameMvs]) ++
  (choiceBits fields.forceScreenContentTools ++
  ((if choiceValue fields.forceScreenContentTools != 0 then choiceBits fields.forceIntegerMv
    else []) ++
  fields.orderHint.elim [] fun hint => toBits 3 hint.orderHintBitsMinus1.toNat)))))))

def Fits (fields : ToolFields) : Prop :=
  ∀ hint ∈ fields.orderHint, hint.orderHintBitsMinus1.toNat < 2 ^ 3

def value (fields : ToolFields) : InterTools where
  enableInterintraCompound := fields.enableInterintraCompound
  enableMaskedCompound := fields.enableMaskedCompound
  enableWarpedMotion := fields.enableWarpedMotion
  enableDualFilter := fields.enableDualFilter
  enableOrderHint := fields.orderHint.isSome
  enableJntComp := fields.orderHint.elim false OrderHintFields.enableJntComp
  enableRefFrameMvs := fields.orderHint.elim false OrderHintFields.enableRefFrameMvs
  seqForceScreenContentTools := choiceValue fields.forceScreenContentTools
  seqForceIntegerMv := if choiceValue fields.forceScreenContentTools != 0 then
    choiceValue fields.forceIntegerMv else 2
  orderHintBits := fields.orderHint.elim 0 fun hint => hint.orderHintBitsMinus1 + 1

theorem decodes_pairTools (fields : ToolFields) :
    Decodes (readOr fields.orderHint.isSome (false, false) SequenceHeaderObu.readPairTools)
      (fields.orderHint.elim [] fun hint => [hint.enableJntComp] ++ [hint.enableRefFrameMvs])
      (fields.orderHint.elim false OrderHintFields.enableJntComp,
        fields.orderHint.elim false OrderHintFields.enableRefFrameMvs) := by
  cases fields.orderHint with
  | none => exact Decodes.pure _
  | some hint =>
      exact (Decodes.readBit hint.enableJntComp).bind
        ((Decodes.readBit hint.enableRefFrameMvs).finish (Decodes.pure _))

theorem decodes_orderHintBits {fields : ToolFields} (fits : fields.Fits) :
    Decodes (readOr fields.orderHint.isSome 0 (do return (← readByte 3) + 1))
      (fields.orderHint.elim [] fun hint => toBits 3 hint.orderHintBitsMinus1.toNat)
      (fields.orderHint.elim 0 fun hint => hint.orderHintBitsMinus1 + 1) := by
  unfold Fits at fits
  cases found : fields.orderHint with
  | none => exact Decodes.pure _
  | some hint => exact (decodes_readByte (by decide) (fits hint found)).map (· + 1)

theorem decodes {fields : ToolFields} (fits : fields.Fits) :
    Decodes SequenceHeaderObu.readInterTools fields.bits fields.value := by
  refine (Decodes.readBit fields.enableInterintraCompound).bind ?_
  refine (Decodes.readBit fields.enableMaskedCompound).bind ?_
  refine (Decodes.readBit fields.enableWarpedMotion).bind ?_
  refine (Decodes.readBit fields.enableDualFilter).bind ?_
  refine (Decodes.readBit fields.orderHint.isSome).bind ?_
  refine (fields.decodes_pairTools).bind ?_
  refine (decodes_choice fields.forceScreenContentTools).bind ?_
  refine (decodes_readOr _ 2 fun _ => decodes_choice fields.forceIntegerMv).bind ?_
  exact (decodes_orderHintBits fits).finish (Decodes.pure _)

end ToolFields

/-! ## The header -/

/-- What only a header that is not reduced has. -/
structure FullFields where
  stillPicture : Bool
  timing : Option (TimingFields × Option DecoderModelFields)
  initialDisplayDelayPresent : Bool
  operatingPoints : List PointFields
  /-- The lengths of the difference and of the rest of an id, less 2 and less 1. -/
  frameIds : Option (UInt8 × UInt8)
  tools : ToolFields
  deriving DecidableEq, Repr

namespace FullFields

variable (fields : FullFields)

def model : Option DecoderModelFields := fields.timing.bind Prod.snd

def timingBits (timing : TimingFields × Option DecoderModelFields) : List Bool :=
  timing.1.bits ++ ([timing.2.isSome] ++ timing.2.elim [] DecoderModelFields.bits)

def pointBits : List Bool :=
  [fields.timing.isSome] ++ fields.timing.elim [] timingBits ++
  ([fields.initialDisplayDelayPresent] ++ (toBits 5 (fields.operatingPoints.length - 1) ++
  fields.operatingPoints.flatMap (PointFields.bits fields.model fields.initialDisplayDelayPresent)))

def frameIdBits : List Bool :=
  [fields.frameIds.isSome] ++ fields.frameIds.elim [] fun lengths =>
    toBits 4 lengths.1.toNat ++ toBits 3 lengths.2.toNat

/-- There are between 1 and 32 operating points, and every number has its width. -/
structure Fits : Prop where
  timing : ∀ timing ∈ fields.timing, timing.1.Fits
  model : ∀ model ∈ fields.model, model.Fits
  some : 1 ≤ fields.operatingPoints.length
  few : fields.operatingPoints.length ≤ 32
  operatingPoints : ∀ point ∈ fields.operatingPoints, point.Fits fields.model
  deltaFrameIdLength : ∀ lengths ∈ fields.frameIds, lengths.1.toNat < 2 ^ 4
  additionalFrameIdLength : ∀ lengths ∈ fields.frameIds, lengths.2.toNat < 2 ^ 3
  tools : fields.tools.Fits

def points : SequenceHeaderObu.Points :=
  (fields.timing.map fun timing => timing.1.value, fields.model.map DecoderModelFields.value,
    fields.operatingPoints.map (PointFields.value fields.model fields.initialDisplayDelayPresent))

def frameIdsValue : Option FrameIds :=
  fields.frameIds.map fun lengths => ⟨lengths.1 + 2, lengths.2 + 1⟩

variable {fields} (checks : OverflowChecks) (fits : fields.Fits)

include fits

theorem decodes_timing : Decodes (readFlagged (SequenceHeaderObu.readTiming checks))
    ([fields.timing.isSome] ++ fields.timing.elim [] timingBits)
    (fields.timing.map fun timing => (timing.1.value, timing.2.map DecoderModelFields.value)) := by
  apply decodes_readFlagged
  intro timing there
  have models : ∀ model ∈ timing.2, model.Fits := by
    intro model known
    apply fits.model
    rw [FullFields.model, there]
    exact known
  refine (TimingFields.decodes checks (fits.timing timing there)).bind ?_
  exact (decodes_readFlagged timing.2 fun model known =>
    DecoderModelFields.decodes (models model known)).finish (Decodes.pure _)

theorem decodes_points : Decodes (SequenceHeaderObu.readPoints checks) fields.pointBits fields.points := by
  have bounded : (UInt8.ofNat (fields.operatingPoints.length - 1)).toNat =
      fields.operatingPoints.length - 1 :=
    UInt8.toNat_ofNat_of_lt' (show _ < 2 ^ 8 by have := fits.few; omega)
  have small : (UInt8.ofNat (fields.operatingPoints.length - 1)).toNat < 2 ^ 5 := by
    have few := fits.few
    omega
  have count := toNat_succ small
  rw [bounded, Nat.sub_add_cancel fits.some] at count
  have known : (fields.timing.map fun timing =>
      (timing.1.value, timing.2.map DecoderModelFields.value)).bind Prod.snd =
      fields.model.map DecoderModelFields.value := by
    unfold FullFields.model
    cases fields.timing with
    | none => rfl
    | some timing => rfl
  have number : Decodes (readByte 5) (toBits 5 (fields.operatingPoints.length - 1))
      (UInt8.ofNat (fields.operatingPoints.length - 1)) := by
    have read := decodes_readByte (show 5 ≤ 64 by decide) small
    rw [bounded] at read
    exact read
  refine (decodes_timing checks fits).bind ?_
  rw [known]
  refine (Decodes.readBit fields.initialDisplayDelayPresent).bind ?_
  refine number.bind ?_
  rw [count]
  have points := Decodes.repeatedlyMap fun point there =>
    @PointFields.decodes fields.model fields.initialDisplayDelayPresent point fits.model
      (fits.operatingPoints point there)
  refine points.finish ?_
  rw [Option.map_map]
  exact Decodes.pure _

theorem decodes_frameIds :
    Decodes (readFlagged SequenceHeaderObu.readFrameIds) fields.frameIdBits fields.frameIdsValue :=
  decodes_readFlagged fields.frameIds fun lengths there =>
    (decodes_readByte (by decide) (fits.deltaFrameIdLength lengths there)).bind
      ((decodes_readByte (by decide) (fits.additionalFrameIdLength lengths there)).finish
        (Decodes.pure _))

end FullFields

/-- A header of a still picture may be reduced. -/
inductive HeaderForm where
  | reduced (seqLevelIdx : UInt8)
  | full (fields : FullFields)
  deriving DecidableEq, Repr

structure SequenceHeaderFields where
  seqProfile : UInt8
  form : HeaderForm
  frameWidthBitsMinus1 : UInt8
  frameHeightBitsMinus1 : UInt8
  maxFrameWidthMinus1 : UInt64
  maxFrameHeightMinus1 : UInt64
  use128x128Superblock : Bool
  enableFilterIntra : Bool
  enableIntraEdgeFilter : Bool
  enableSuperres : Bool
  enableCdef : Bool
  enableRestoration : Bool
  color : ColorFields
  filmGrainParamsPresent : Bool
  deriving DecidableEq, Repr

namespace HeaderForm

def isReduced : HeaderForm → Bool
  | .reduced _ => true
  | .full _ => false

def stillPicture : HeaderForm → Bool
  | .reduced _ => true
  | .full fields => fields.stillPicture

def pointBits : HeaderForm → List Bool
  | .reduced seqLevelIdx => toBits 5 seqLevelIdx.toNat
  | .full fields => fields.pointBits

def frameIdBits : HeaderForm → List Bool
  | .reduced _ => []
  | .full fields => fields.frameIdBits

def toolBits : HeaderForm → List Bool
  | .reduced _ => []
  | .full fields => fields.tools.bits

def Fits : HeaderForm → Prop
  | .reduced seqLevelIdx => seqLevelIdx.toNat < 2 ^ 5
  | .full fields => fields.Fits

/-- A reduced header has one operating point, of the main tier and for all layers. -/
def points : HeaderForm → SequenceHeaderObu.Points
  | .reduced seqLevelIdx => (none, none, [⟨0, seqLevelIdx, false, none, none⟩])
  | .full fields => fields.points

def frameIds : HeaderForm → Option FrameIds
  | .reduced _ => none
  | .full fields => fields.frameIdsValue

/-- Without pairs of frames the tools for them are off, and the frames choose the others. -/
def tools : HeaderForm → InterTools
  | .reduced _ => {
      enableInterintraCompound := false
      enableMaskedCompound := false
      enableWarpedMotion := false
      enableDualFilter := false
      enableOrderHint := false
      enableJntComp := false
      enableRefFrameMvs := false
      seqForceScreenContentTools := 2
      seqForceIntegerMv := 2
      orderHintBits := 0 }
  | .full fields => fields.tools.value

variable {form : HeaderForm} (fits : form.Fits)

include fits

theorem decodes_points (checks : OverflowChecks) :
    Decodes (if form.isReduced then SequenceHeaderObu.readReducedPoints
      else SequenceHeaderObu.readPoints checks) form.pointBits form.points := by
  cases form with
  | reduced seqLevelIdx => exact (decodes_readByte (by decide) fits).finish (Decodes.pure _)
  | full fields => exact FullFields.decodes_points checks fits

theorem decodes_frameIds :
    Decodes (readOr (!form.isReduced) none (readFlagged SequenceHeaderObu.readFrameIds))
      form.frameIdBits form.frameIds := by
  cases form with
  | reduced seqLevelIdx => exact Decodes.pure none
  | full fields => exact FullFields.decodes_frameIds fits

theorem decodes_tools :
    Decodes (readOr (!form.isReduced) SequenceHeaderObu.reducedTools SequenceHeaderObu.readInterTools)
      form.toolBits form.tools := by
  cases form with
  | reduced seqLevelIdx => exact Decodes.pure _
  | full fields => exact ToolFields.decodes fits.tools

end HeaderForm

namespace SequenceHeaderFields

variable (fields : SequenceHeaderFields)

def bits : List Bool :=
  toBits 3 fields.seqProfile.toNat ++ ([fields.form.stillPicture] ++ ([fields.form.isReduced] ++
  (fields.form.pointBits ++
  (toBits 4 fields.frameWidthBitsMinus1.toNat ++ (toBits 4 fields.frameHeightBitsMinus1.toNat ++
  (toBits (fields.frameWidthBitsMinus1.toNat + 1) fields.maxFrameWidthMinus1.toNat ++
  (toBits (fields.frameHeightBitsMinus1.toNat + 1) fields.maxFrameHeightMinus1.toNat ++
  (fields.form.frameIdBits ++
  ([fields.use128x128Superblock] ++ ([fields.enableFilterIntra] ++ ([fields.enableIntraEdgeFilter] ++
  (fields.form.toolBits ++
  ([fields.enableSuperres] ++ ([fields.enableCdef] ++ ([fields.enableRestoration] ++
  (fields.color.bits fields.seqProfile ++ [fields.filmGrainParamsPresent]))))))))))))))))

/-- The profile is one of the three that are specified, and every number has its width. -/
structure Fits : Prop where
  seqProfile : fields.seqProfile.toNat ≤ 2
  form : fields.form.Fits
  frameWidthBits : fields.frameWidthBitsMinus1.toNat < 2 ^ 4
  frameHeightBits : fields.frameHeightBitsMinus1.toNat < 2 ^ 4
  maxFrameWidth : fields.maxFrameWidthMinus1.toNat < 2 ^ (fields.frameWidthBitsMinus1.toNat + 1)
  maxFrameHeight : fields.maxFrameHeightMinus1.toNat < 2 ^ (fields.frameHeightBitsMinus1.toNat + 1)
  color : fields.color.Fits

/-- What the header says, with the inferred values of the fields that are absent. -/
def value (header : ObuHeader) : SequenceHeaderObu where
  header
  seqProfile := fields.seqProfile
  stillPicture := fields.form.stillPicture
  reducedStillPictureHeader := fields.form.isReduced
  timingInfo := fields.form.points.1
  decoderModelInfo := fields.form.points.2.1
  operatingPoints := fields.form.points.2.2
  maxFrameWidth := fields.maxFrameWidthMinus1 + 1
  maxFrameHeight := fields.maxFrameHeightMinus1 + 1
  frameIds := fields.form.frameIds
  use128x128Superblock := fields.use128x128Superblock
  enableFilterIntra := fields.enableFilterIntra
  enableIntraEdgeFilter := fields.enableIntraEdgeFilter
  enableInterintraCompound := fields.form.tools.enableInterintraCompound
  enableMaskedCompound := fields.form.tools.enableMaskedCompound
  enableWarpedMotion := fields.form.tools.enableWarpedMotion
  enableDualFilter := fields.form.tools.enableDualFilter
  enableOrderHint := fields.form.tools.enableOrderHint
  enableJntComp := fields.form.tools.enableJntComp
  enableRefFrameMvs := fields.form.tools.enableRefFrameMvs
  seqForceScreenContentTools := fields.form.tools.seqForceScreenContentTools
  seqForceIntegerMv := fields.form.tools.seqForceIntegerMv
  orderHintBits := fields.form.tools.orderHintBits
  enableSuperres := fields.enableSuperres
  enableCdef := fields.enableCdef
  enableRestoration := fields.enableRestoration
  colorConfig := fields.color.value fields.seqProfile
  filmGrainParamsPresent := fields.filmGrainParamsPresent

theorem decodes (checks : OverflowChecks) (header : ObuHeader) {fields : SequenceHeaderFields}
    (fits : fields.Fits) :
    Decodes (SequenceHeaderObu.readFields checks header) fields.bits (fields.value header) := by
  have width := toNat_succ (show fields.frameWidthBitsMinus1.toNat < 2 ^ 5 by
    have := fits.frameWidthBits; omega)
  have height := toNat_succ (show fields.frameHeightBitsMinus1.toNat < 2 ^ 5 by
    have := fits.frameHeightBits; omega)
  have allowed : (!fields.form.stillPicture && fields.form.isReduced) = false := by
    cases fields.form with
    | reduced seqLevelIdx => rfl
    | full fields => exact Bool.and_false _
  have profile : fields.seqProfile.toNat < 2 ^ 3 := by
    have known := fits.seqProfile
    omega
  refine (decodes_readByte (by decide) profile).bind ?_
  refine (Decodes.readBit fields.form.stillPicture).bind ?_
  refine (Decodes.readBit fields.form.isReduced).bind ?_
  rw [allowed, refuse_false]
  refine (HeaderForm.decodes_points fits.form checks).bind ?_
  refine (decodes_readByte (by decide) fits.frameWidthBits).bind ?_
  refine (decodes_readByte (by decide) fits.frameHeightBits).bind ?_
  rw [width, height]
  refine (decodes_number (by have := fits.frameWidthBits; omega) fits.maxFrameWidth).bind ?_
  refine (decodes_number (by have := fits.frameHeightBits; omega) fits.maxFrameHeight).bind ?_
  refine (HeaderForm.decodes_frameIds fits.form).bind ?_
  refine (Decodes.readBit fields.use128x128Superblock).bind ?_
  refine (Decodes.readBit fields.enableFilterIntra).bind ?_
  refine (Decodes.readBit fields.enableIntraEdgeFilter).bind ?_
  refine (HeaderForm.decodes_tools fits.form).bind ?_
  refine (Decodes.readBit fields.enableSuperres).bind ?_
  refine (Decodes.readBit fields.enableCdef).bind ?_
  refine (Decodes.readBit fields.enableRestoration).bind ?_
  refine (fields.color.decodes fields.seqProfile fits.color).bind ?_
  exact (Decodes.readBit fields.filmGrainParamsPresent).finish (Decodes.pure _)

end SequenceHeaderFields

namespace SequenceHeaderObu

/-- The number of points is counted from one. -/
theorem points_yielded (checks : OverflowChecks) (reduced : Bool) :
    Yields (if reduced then readReducedPoints else readPoints checks) fun points => points.2.2 ≠ [] := by
  cases reduced with
  | true => exact Yields.behind fun _ => Yields.pure (List.cons_ne_nil _ _)
  | false =>
      have count : Yields (readByte 5) fun number => number.toNat < 2 ^ 5 := by
        intro state buffer position number last stop done
        obtain ⟨bits, _, _, read, same⟩ := sequence_ok_iff.mp done
        cases same
        exact toUInt8_lt (readBits_lt (by decide) read)
      refine Yields.behind fun timing => Yields.behind fun delays => count.bind fun number small => ?_
      have several : Yields (repeatedly (OperatingPoint.parse (timing.bind Prod.snd) delays)
          (number + 1).toNat) fun points => points ≠ [] := by
        rintro state buffer position points last stop done rfl
        have length := length_of_repeatedly done
        rw [toNat_succ small] at length
        exact absurd length (Nat.succ_ne_zero _).symm
      exact several.bind fun points some => Yields.pure some

/-- A reader made at a byte stands at its first bit. -/
theorem standing_at_byte (buffer : Bytes) (position : Nat) :
    Standing buffer position ⟨0, 0⟩ (8 * position) where
  inside := by decide
  aligned := fun _ => rfl
  begun := fun begun => absurd rfl begun

/-- The fields behind the points leave them as they are. -/
theorem operatingPoints_yielded (checks : OverflowChecks) (header : ObuHeader) :
    Yields (readFields checks header) fun obu => obu.operatingPoints ≠ [] := by
  refine Yields.behind fun profile => Yields.behind fun still => Yields.behind fun reduced => ?_
  refine Yields.behind fun _ => (points_yielded checks reduced).bind fun points some => ?_
  obtain ⟨timing, model, points⟩ := points
  iterate 14 refine Yields.behind fun _ => ?_
  exact Yields.pure some

theorem operatingPoints_ne_nil {checks : OverflowChecks} {header : ObuHeader} {buffer : Bytes}
    {position stop : Nat} {obu : SequenceHeaderObu}
    (done : parse checks header buffer position = .ok (obu, stop)) : obu.operatingPoints ≠ [] := by
  obtain ⟨⟨result, state⟩, _, read, same⟩ := Reader.bind_eq_ok_iff.mp done
  cases same
  exact operatingPoints_yielded checks header _ _ _ _ _ _ read

/-- Every header that is laid out as specified, behind any bytes and in front of any bits, is read as
what it says, and exactly its bits are taken.  Whatever was read has an operating point. -/
theorem parse_layout (checks : OverflowChecks) (header : ObuHeader) :
    (∀ fields : SequenceHeaderFields, fields.Fits → ∀ (before buffer : Bytes) (rest : List Bool),
      bytesBits buffer = bytesBits before ++ (fields.bits ++ rest) →
        parse checks header buffer before.length =
          .ok (fields.value header, before.length + (fields.bits.length + 7) / 8) ∧
        ∃ state stop, run (readFields checks header) buffer before.length =
            .ok ((fields.value header, state), stop) ∧
          Standing buffer stop state (8 * before.length + fields.bits.length)) ∧
    ∀ buffer position obu stop, parse checks header buffer position = .ok (obu, stop) →
      obu.operatingPoints ≠ [] := by
  refine ⟨?_, fun _ _ _ _ done => operatingPoints_ne_nil done⟩
  intro fields fits before buffer rest whole
  have decodes := SequenceHeaderFields.decodes checks header fits
  have start := standing_at_byte buffer before.length
  rw [← length_bytesBits] at start
  obtain ⟨state, stop, done, behind⟩ := decodes _ _ _ _ _ whole start
  rw [length_bytesBits] at behind
  have place : stop = before.length + (fields.bits.length + 7) / 8 := by
    have inside := behind.inside
    by_cases aligned : state.bitPos = 0
    · have place := behind.aligned aligned
      omega
    · have place := (behind.begun aligned).1
      omega
  refine ⟨?_, state, stop, done, behind⟩
  have read : run (readFields checks header) buffer before.length = .ok ((_, state), stop) := done
  unfold parse
  rw [Reader.bind_ok read, place]
  rfl

end SequenceHeaderObu

/-- Two operating points with a decoder model, in a profile with twelve bits. -/
def sampleHeader : SequenceHeaderFields where
  seqProfile := 2
  form := .full {
    stillPicture := false
    timing := some (⟨1, 30, some 1000⟩, some ⟨9, 1, 3, 4⟩)
    initialDisplayDelayPresent := true
    operatingPoints := [⟨0, 8, true, some ⟨1023, 5, true⟩, some 9⟩, ⟨1, 7, true, none, none⟩]
    frameIds := some (3, 2)
    tools := ⟨true, false, true, false, some ⟨true, false, 6⟩, some true, none⟩ }
  frameWidthBitsMinus1 := 10
  frameHeightBitsMinus1 := 10
  maxFrameWidthMinus1 := 1919
  maxFrameHeightMinus1 := 1079
  use128x128Superblock := true
  enableFilterIntra := true
  enableIntraEdgeFilter := false
  enableSuperres := false
  enableCdef := true
  enableRestoration := true
  color := ⟨true, true, false, some (1, 13, 1), true, true, true, 2, false⟩
  filmGrainParamsPresent := true

theorem sampleHeader_fits : sampleHeader.Fits where
  seqProfile := by decide
  form := {
    timing := by
      rintro _ ⟨⟩
      rintro _ ⟨⟩
      decide
    model := by
      rintro _ ⟨⟩
      exact ⟨by decide, by decide, by decide⟩
    some := by decide
    few := by decide
    operatingPoints := by
      rintro point (_ | ⟨_, _ | ⟨_, ⟨⟩⟩⟩)
      · refine ⟨by decide, by decide, ?_, ?_, ?_⟩
        · rintro _ ⟨⟩ _ ⟨⟩
          decide
        · rintro _ ⟨⟩ _ ⟨⟩
          decide
        · rintro _ ⟨⟩
          decide
      · refine ⟨by decide, by decide, ?_, ?_, ?_⟩
        · rintro _ _ _ ⟨⟩
        · rintro _ _ _ ⟨⟩
        · rintro _ ⟨⟩
    deltaFrameIdLength := by rintro _ ⟨⟩; decide
    additionalFrameIdLength := by rintro _ ⟨⟩; decide
    tools := by rintro _ ⟨⟩; decide }
  frameWidthBits := by decide
  frameHeightBits := by decide
  maxFrameWidth := by decide
  maxFrameHeight := by decide
  color := by
    unfold ColorFields.Fits
    decide

/-- The bytes of the sample, filled up with zeros. -/
def sampleBytes : Bytes := bitsBytes ((sampleHeader.bits.length + 7) / 8)
  (sampleHeader.bits ++ List.replicate 8 false)

theorem parse_sampleHeader : sampleHeader.Fits ∧
    bytesBits sampleBytes = bytesBits [] ++ (sampleHeader.bits ++
      List.replicate (8 * sampleBytes.length - sampleHeader.bits.length) false) ∧
    SequenceHeaderObu.parse .on ⟨.sequenceHeader, none, none⟩ sampleBytes 0 =
      .ok (sampleHeader.value ⟨.sequenceHeader, none, none⟩, sampleBytes.length) := by
  have whole : bytesBits sampleBytes = bytesBits [] ++ (sampleHeader.bits ++
      List.replicate (8 * sampleBytes.length - sampleHeader.bits.length) false) := by decide +kernel
  have parsed := ((SequenceHeaderObu.parse_layout .on ⟨.sequenceHeader, none, none⟩).1 sampleHeader
    sampleHeader_fits [] sampleBytes _ whole).1
  have length : sampleBytes.length = (sampleHeader.bits.length + 7) / 8 := length_bitsBytes _ _
  rw [length]
  rw [List.length_nil, Nat.zero_add] at parsed
  exact ⟨sampleHeader_fits, length ▸ whole, parsed⟩

end ScuffleVideo.Av1
