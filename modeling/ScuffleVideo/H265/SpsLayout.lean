import ScuffleVideo.H264.Sps
import ScuffleVideo.H265.Sps

/-!
# The layout of HEVC sequence parameter sets

The fields of a parameter set up to the ordering of its sub-layers.  A sub-layer shows its profile
and its level only behind the flags for them, and the last sub-layer is always ordered.  The parser
passes a profile for every sub-layer and no ordering at all if it is not told for every one, so that
it stands behind these structures only if everything is there.
-/

namespace ScuffleVideo.H265

open Wire BitReader BitCursor

/-! ## Units -/

/-- The bytes that the parsers read are never those that were escaped. -/
theorem unescaped_escape_ne (rbsp : Bytes) : H264.Sps.unescaped (escape rbsp) ≠ .ok rbsp ∧
    H265.Sps.unescaped (escape rbsp) ≠ .ok rbsp :=
  ⟨unescape_ne rbsp, unescape_ne rbsp⟩

/-- The last three bytes are dropped. -/
theorem unescaped_baseline : H264.Sps.unescaped (escape [0x67, 0x42, 0x00, 0x1e]) = .ok [0x67] ∧
    H265.Sps.unescaped (escape [0x67, 0x42, 0x00, 0x1e]) = .ok [0x67] := by
  decide

/-- Behind a first part of its fields the parser stands at a bit of the unit. -/
def Sps.StandsBehind {α : Type} (part : BitReader α) (data : Bytes) (bit : Nat) : Prop :=
  ∃ bytes value state stop, Sps.unescaped data = .ok bytes ∧
    run part bytes 0 = .ok ((value, state), stop) ∧ Standing bytes stop state bit

section

variable {α : Type} {part : BitReader α} {data bytes : Bytes} {bits rest : List Bool}
  (kept : Sps.unescaped data = .ok bytes) (layout : bytesBits bytes = bits ++ rest)

include kept layout

theorem Sps.standsBehind_of_decodes {value : α} (decodes : Decodes part bits value) :
    Sps.StandsBehind part data bits.length := by
  obtain ⟨state, stop, read, there⟩ := decodes.run layout
  exact ⟨bytes, value, state, stop, kept, read, there⟩

theorem Sps.eq_of_lands {bit count : Nat} (lands : Lands part bits count)
    (stands : Sps.StandsBehind part data bit) : bit = count := by
  obtain ⟨same, value, state, stop, unit, read, there⟩ := stands
  obtain rfl := Except.ok.inj (kept.symm.trans unit)
  have landed := lands bytes [] rest 0 ⟨0, 0⟩ layout (Standing.start bytes) _ _ _ read
  rw [List.length_nil, Nat.zero_add] at landed
  exact there.unique landed

end

/-! ## Profile, tier and level -/

/-- A sub-layer with the 88 bits of its profile and its level, if these are there. -/
structure SubLayer where
  profile : Option Nat
  level : Option UInt8

namespace SubLayer

def flags (layer : SubLayer) : List Bool := [layer.profile.isSome] ++ [layer.level.isSome]

def bits (layer : SubLayer) : List Bool :=
  layer.profile.elim [] (toBits 88) ++ layer.level.elim [] byteBits

/-- How far the parser moves for the sub-layer. -/
def passed (layer : SubLayer) : Nat := 88 + layer.level.elim 0 fun _ => 8

theorem length_bits (layer : SubLayer) :
    layer.bits.length + (if layer.profile.isSome then 0 else 88) = layer.passed := by
  obtain ⟨profile, level⟩ := layer
  unfold bits passed
  rw [List.length_append]
  cases profile <;> cases level <;> simp

end SubLayer

structure ProfileTierLevel where
  generalProfile : Nat
  generalLevelIdc : UInt8
  reserved : Nat
  subLayers : List SubLayer

namespace ProfileTierLevel

def flagBits (tier : ProfileTierLevel) : List Bool :=
  (toBits 88 tier.generalProfile ++ byteBits tier.generalLevelIdc) ++
  (tier.subLayers.flatMap SubLayer.flags ++
  (if tier.subLayers = [] then [] else toBits (2 * (8 - tier.subLayers.length)) tier.reserved))

def bits (tier : ProfileTierLevel) : List Bool :=
  tier.flagBits ++ tier.subLayers.flatMap SubLayer.bits

/-- Every sub-layer shows its profile. -/
def Profiled (tier : ProfileTierLevel) : Prop := ∀ layer ∈ tier.subLayers, layer.profile.isSome

theorem readSubLayersFlags_decodes {tier : ProfileTierLevel} (few : tier.subLayers.length ≤ 6) :
    Decodes (readSubLayersFlags tier.subLayers.length) tier.flagBits
      (tier.subLayers.map fun layer => layer.level.isSome) := by
  have general : (toBits 88 tier.generalProfile ++ byteBits tier.generalLevelIdc).length = 96 := by
    rw [List.length_append, length_toBits, length_byteBits]
  have flags : ∀ layer ∈ tier.subLayers,
      Decodes readSubLayerFlags layer.flags layer.level.isSome := fun layer _ =>
    (Decodes.skipBits List.length_singleton).bind (Decodes.readBit _)
  refine (Decodes.skipBits general).bind ?_
  refine (Decodes.repeatedlyMap flags).bind ?_
  by_cases empty : tier.subLayers = []
  · rw [if_pos empty, empty]
    exact (Decodes.pure none).finish (Decodes.pure _)
  · have some : 0 < tier.subLayers.length := List.length_pos_iff.mpr empty
    rw [if_neg empty, decide_eq_true some, decide_eq_true (show tier.subLayers.length < 8 by omega)]
    exact ((Decodes.skipBits (length_toBits _ _)).map Option.some).finish (Decodes.pure _)

/-- The parser moves by a profile for every sub-layer. -/
theorem skipSubLayers_lands (layers : List SubLayer) :
    Lands (skipSubLayers (layers.map fun layer => layer.level.isSome)) []
      (layers.map SubLayer.passed).sum := by
  intro buffer before after position state whole standing value last stop done
  clear whole
  generalize before.length = bit at standing ⊢
  induction layers generalizing position state bit with
  | nil =>
      cases done
      exact standing
  | cons layer layers ih =>
      obtain ⟨_, _, _, profile, more⟩ := sequence_ok_iff.mp done
      obtain ⟨_, _, _, level, rest⟩ := sequence_ok_iff.mp more
      have behind := standing_of_skipBits (by decide) standing profile
      change optionally layer.level.isSome (skipBits 8) _ buffer _ = _ at level
      rw [List.map_cons, List.sum_cons, ← Nat.add_assoc]
      refine ih _ _ rest _ ?_
      unfold SubLayer.passed
      cases shown : layer.level with
      | none =>
          rw [shown] at level
          cases level
          exact behind
      | some idc =>
          rw [shown] at level
          obtain ⟨_, _, _, moved, same⟩ := sequence_ok_iff.mp level
          cases same
          rw [← Nat.add_assoc]
          exact standing_of_skipBits (show 0 < 8 by decide) behind moved

theorem skipSubLayers_decodes {layers : List SubLayer}
    (profiled : ∀ layer ∈ layers, layer.profile.isSome) :
    Decodes (skipSubLayers (layers.map fun layer => layer.level.isSome))
      (layers.flatMap SubLayer.bits) () := by
  induction layers with
  | nil => exact Decodes.pure ()
  | cons layer layers ih =>
      rw [List.forall_mem_cons] at profiled
      obtain ⟨number, shown⟩ := Option.isSome_iff_exists.mp profiled.1
      have split : layer.bits = toBits 88 number ++ layer.level.elim [] byteBits := by
        rw [SubLayer.bits, shown]
        rfl
      rw [List.flatMap_cons, split, List.append_assoc]
      refine (Decodes.skipBits (length_toBits _ _)).bind ?_
      refine (decodes_optional fun idc _ => Decodes.skipBits (length_byteBits idc)).bind ?_
      exact ih profiled.2

/-- The sub-layers fill what the parser passes exactly if each has its profile. -/
theorem passed_eq_iff (layers : List SubLayer) :
    (layers.map SubLayer.passed).sum = (layers.flatMap SubLayer.bits).length ↔
      ∀ layer ∈ layers, layer.profile.isSome := by
  have least (layers : List SubLayer) :
      (layers.flatMap SubLayer.bits).length ≤ (layers.map SubLayer.passed).sum := by
    induction layers with
    | nil => exact Nat.le_refl 0
    | cons layer layers ih =>
        have here := layer.length_bits
        rw [List.flatMap_cons, List.length_append, List.map_cons, List.sum_cons]
        omega
  induction layers with
  | nil => exact ⟨fun _ => List.forall_mem_nil _, fun _ => rfl⟩
  | cons layer layers ih =>
      have here := layer.length_bits
      have behind := least layers
      rw [List.forall_mem_cons, List.flatMap_cons, List.length_append, List.map_cons, List.sum_cons]
      constructor
      · intro same
        cases shown : layer.profile.isSome with
        | true =>
            rw [shown, if_pos rfl] at here
            exact ⟨rfl, ih.mp (by omega)⟩
        | false =>
            rw [shown, if_neg Bool.false_ne_true] at here
            omega
      · rintro ⟨shown, others⟩
        rw [if_pos shown] at here
        have rest := ih.mpr others
        omega

end ProfileTierLevel

/-! ## Pictures -/

structure WindowFields where
  left : Nat
  right : Nat
  top : Nat
  bottom : Nat

namespace WindowFields

def bits (fields : WindowFields) : List Bool :=
  ueBits fields.left ++ (ueBits fields.right ++ (ueBits fields.top ++ ueBits fields.bottom))

structure Fits (fields : WindowFields) : Prop where
  left : fields.left < 2 ^ 32
  right : fields.right < 2 ^ 32
  top : fields.top < 2 ^ 32
  bottom : fields.bottom < 2 ^ 32

def value (fields : WindowFields) : ConformanceWindow :=
  ⟨UInt64.ofNat fields.left, UInt64.ofNat fields.right, UInt64.ofNat fields.top,
    UInt64.ofNat fields.bottom⟩

theorem decodes (checks : OverflowChecks) {fields : WindowFields} (fits : fields.Fits) :
    Decodes (readConformanceWindow checks) fields.bits fields.value := by
  refine (decodes_ue checks fits.left).bind ?_
  refine (decodes_ue checks fits.right).bind ?_
  refine (decodes_ue checks fits.top).bind ?_
  exact (decodes_ue checks fits.bottom).finish (Decodes.pure _)

end WindowFields

/-- The fields between the two structures. -/
structure SizeFields where
  seqParameterSetId : Nat
  chromaFormatIdc : Nat
  separateColourPlane : Bool
  picWidthInLumaSamples : Nat
  picHeightInLumaSamples : Nat
  window : Option WindowFields
  bitDepthLumaMinus8 : Nat
  bitDepthChromaMinus8 : Nat
  log2MaxPicOrderCntLsbMinus4 : Nat

namespace SizeFields

def pictureBits (fields : SizeFields) : List Bool :=
  ueBits fields.chromaFormatIdc ++
  ((if fields.chromaFormatIdc = 3 then [fields.separateColourPlane] else []) ++
  (ueBits fields.picWidthInLumaSamples ++ (ueBits fields.picHeightInLumaSamples ++
  ([fields.window.isSome] ++ fields.window.elim [] WindowFields.bits))))

def bits (fields : SizeFields) : List Bool :=
  ueBits fields.seqParameterSetId ++ (fields.pictureBits ++ (ueBits fields.bitDepthLumaMinus8 ++
  (ueBits fields.bitDepthChromaMinus8 ++ ueBits fields.log2MaxPicOrderCntLsbMinus4)))

/-- Without a window nothing is cropped. -/
def crop (fields : SizeFields) : WindowFields := fields.window.getD ⟨0, 0, 0, 0⟩

def picture (fields : SizeFields) : PictureFields :=
  ⟨UInt64.ofNat fields.chromaFormatIdc, UInt64.ofNat fields.picWidthInLumaSamples,
    UInt64.ofNat fields.picHeightInLumaSamples, fields.crop.value⟩

/-- Every number is below 32 bits, the sampling format is one of the standard, and the window is
inside the picture. -/
structure Fits (fields : SizeFields) : Prop where
  seqParameterSetId : fields.seqParameterSetId < 2 ^ 32
  picWidthInLumaSamples : fields.picWidthInLumaSamples < 2 ^ 32
  picHeightInLumaSamples : fields.picHeightInLumaSamples < 2 ^ 32
  window : ∀ window ∈ fields.window, window.Fits
  bitDepthLumaMinus8 : fields.bitDepthLumaMinus8 < 2 ^ 32
  bitDepthChromaMinus8 : fields.bitDepthChromaMinus8 < 2 ^ 32
  log2MaxPicOrderCntLsbMinus4 : fields.log2MaxPicOrderCntLsbMinus4 < 2 ^ 32
  inside : ∃ units ∈ subSampling fields.chromaFormatIdc,
    units.1 * (fields.crop.left + fields.crop.right) ≤ fields.picWidthInLumaSamples ∧
      units.2 * (fields.crop.top + fields.crop.bottom) ≤ fields.picHeightInLumaSamples

theorem lt_four_of_subSampling {chromaFormatIdc : Nat} {units : Nat × Nat}
    (found : units ∈ subSampling chromaFormatIdc) : chromaFormatIdc < 4 := by
  match chromaFormatIdc, found with
  | 0, _ => decide
  | 1, _ => decide
  | 2, _ => decide
  | 3, _ => decide

theorem crop_fits {fields : SizeFields} (fits : fields.Fits) : fields.crop.Fits := by
  unfold crop
  cases found : fields.window with
  | none => exact ⟨by decide, by decide, by decide, by decide⟩
  | some window => exact fits.window window found

theorem cropped_eq (checks : OverflowChecks) {size factor first second : Nat} (coded : size < 2 ^ 32)
    (firstSmall : first < 2 ^ 32) (secondSmall : second < 2 ^ 32)
    (inside : factor * (first + second) ≤ size) :
    cropped checks size factor (UInt64.ofNat first) (UInt64.ofNat second) =
      pure (size - factor * (first + second)) := by
  unfold cropped
  rw [toNat_small firstSmall, toNat_small secondSmall,
    bind_of_pure (@asU64_inside checks _ (first + second) (by omega) (by omega)),
    bind_of_pure (@asU64_inside checks _ (factor * (first + second)) (Int.natCast_mul _ _).symm
      (by omega))]
  exact asU64_inside checks (by omega) (by omega)

theorem computeSize_eq (checks : OverflowChecks) {fields : SizeFields} (fits : fields.Fits) :
    ∃ size, computeSize checks fields.picture = pure size := by
  obtain ⟨units, found, insideX, insideY⟩ := fits.inside
  have chroma := lt_four_of_subSampling found
  have offsets := crop_fits fits
  have format : subSampling fields.picture.chromaFormatIdc.toNat = some units := by
    change subSampling (UInt64.ofNat fields.chromaFormatIdc).toNat = _
    rw [toNat_small (by omega)]
    exact found
  have width := cropped_eq checks fits.picWidthInLumaSamples offsets.left offsets.right insideX
  have height := cropped_eq checks fits.picHeightInLumaSamples offsets.top offsets.bottom insideY
  rw [← toNat_small fits.picWidthInLumaSamples] at width
  rw [← toNat_small fits.picHeightInLumaSamples] at height
  unfold computeSize
  rw [format]
  exact ⟨_, (bind_of_pure width _).trans (bind_of_pure height _)⟩

theorem readPictureFields_decodes (checks : OverflowChecks) {fields : SizeFields} (fits : fields.Fits) :
    Decodes (readPictureFields checks) fields.pictureBits fields.picture := by
  obtain ⟨units, found, _⟩ := fits.inside
  have small : fields.chromaFormatIdc < 2 ^ 32 :=
    Nat.lt_trans (lt_four_of_subSampling found) (by decide)
  have three := small_beq small 3
  obtain ⟨value, planeRead⟩ := decodes_conditional (fields.chromaFormatIdc = 3)
    (Decodes.readBit fields.separateColourPlane)
  have offsets : (fields.window.map WindowFields.value).getD ⟨0, 0, 0, 0⟩ = fields.crop.value := by
    unfold crop
    cases fields.window <;> rfl
  refine (decodes_ue checks small).bind ?_
  rw [three]
  refine planeRead.bind ?_
  refine (decodes_ue checks fits.picWidthInLumaSamples).bind ?_
  refine (decodes_ue checks fits.picHeightInLumaSamples).bind ?_
  refine (Decodes.readBit fields.window.isSome).bind ?_
  refine (decodes_optional fun window member =>
    WindowFields.decodes checks (fits.window window member)).finish ?_
  rw [offsets]
  exact Decodes.pure _

theorem readSize_decodes (checks : OverflowChecks) {fields : SizeFields} (fits : fields.Fits) :
    ∃ size, Decodes (Sps.readSize checks) fields.bits size := by
  obtain ⟨size, computed⟩ := computeSize_eq checks fits
  refine ⟨size, (decodes_ue checks fits.seqParameterSetId).bind ?_⟩
  refine (readPictureFields_decodes checks fits).bind ?_
  rw [between_bind computed]
  refine (decodes_ue checks fits.bitDepthLumaMinus8).bind ?_
  refine (decodes_ue checks fits.bitDepthChromaMinus8).bind ?_
  exact (decodes_ue checks fits.log2MaxPicOrderCntLsbMinus4).finish (Decodes.pure size)

end SizeFields

/-! ## The ordering of sub-layers -/

/-- What is told about the pictures of a sub-layer. -/
structure OrderingTriplet where
  maxDecPicBufferingMinus1 : Nat
  maxNumReorderPics : Nat
  maxLatencyIncreasePlus1 : Nat

namespace OrderingTriplet

def bits (triplet : OrderingTriplet) : List Bool :=
  ueBits triplet.maxDecPicBufferingMinus1 ++ (ueBits triplet.maxNumReorderPics ++
  ueBits triplet.maxLatencyIncreasePlus1)

structure Fits (triplet : OrderingTriplet) : Prop where
  maxDecPicBufferingMinus1 : triplet.maxDecPicBufferingMinus1 < 2 ^ 32
  maxNumReorderPics : triplet.maxNumReorderPics < 2 ^ 32
  maxLatencyIncreasePlus1 : triplet.maxLatencyIncreasePlus1 < 2 ^ 32

theorem decodes (checks : OverflowChecks) {triplet : OrderingTriplet} (fits : triplet.Fits) :
    Decodes (skipOrderingTriplet checks) triplet.bits () := by
  refine (decodes_ue checks fits.maxDecPicBufferingMinus1).bind ?_
  refine (decodes_ue checks fits.maxNumReorderPics).bind ?_
  exact (decodes_ue checks fits.maxLatencyIncreasePlus1).finish (Decodes.pure ())

theorem length_bits_pos (triplet : OrderingTriplet) : 0 < triplet.bits.length := by
  rw [bits, List.length_append, length_ueBits]
  omega

end OrderingTriplet

structure OrderingInfo where
  present : Bool
  triplets : List OrderingTriplet

namespace OrderingInfo

def bits (info : OrderingInfo) : List Bool :=
  [info.present] ++ info.triplets.flatMap OrderingTriplet.bits

/-- There is a triplet for every sub-layer, or for the last alone. -/
structure Fits (info : OrderingInfo) (maxSubLayersMinus1 : Nat) : Prop where
  length : info.triplets.length = if info.present then maxSubLayersMinus1 + 1 else 1
  triplets : ∀ triplet ∈ info.triplets, triplet.Fits

variable {info : OrderingInfo} {maxSubLayersMinus1 : Nat}

theorem skipOrdering_decodes (checks : OverflowChecks) (fits : info.Fits maxSubLayersMinus1)
    (present : info.present = true) :
    Decodes (Sps.skipOrdering checks maxSubLayersMinus1) info.bits () := by
  have length := fits.length
  rw [if_pos present] at length
  refine (Decodes.readBit info.present).bind ?_
  rw [present, ← length]
  exact ((Decodes.repeatedlyMap fun triplet member =>
    OrderingTriplet.decodes checks (fits.triplets triplet member)).map some).finish (Decodes.pure ())

/-- Without the flag the parser reads nothing behind it. -/
theorem skipOrdering_absent (checks : OverflowChecks) (absent : info.present = false) :
    Decodes (Sps.skipOrdering checks maxSubLayersMinus1) [info.present] () := by
  refine (Decodes.readBit info.present).finish ?_
  rw [absent]
  exact Decodes.pure ()

theorem one_lt_length_bits (fits : info.Fits maxSubLayersMinus1) : 1 < info.bits.length := by
  have length := fits.length
  have some : 0 < info.triplets.length := by
    rw [length]
    split <;> omega
  obtain ⟨triplet, triplets, same⟩ := List.exists_cons_of_length_pos some
  have here := triplet.length_bits_pos
  rw [bits, same, List.flatMap_cons, List.length_append, List.length_append, List.length_singleton]
  omega

end OrderingInfo

/-! ## The parameter set -/

structure SpsFields where
  nuhLayerId : Nat
  nuhTemporalIdPlus1 : Nat
  videoParameterSetId : Nat
  temporalIdNesting : Bool
  tier : ProfileTierLevel
  size : SizeFields
  ordering : OrderingInfo

namespace SpsFields

def headerBits (fields : SpsFields) : List Bool :=
  [false] ++ (toBits 6 33 ++ ((toBits 6 fields.nuhLayerId ++ (toBits 3 fields.nuhTemporalIdPlus1 ++
  toBits 4 fields.videoParameterSetId)) ++ (toBits 3 fields.tier.subLayers.length ++
  [fields.temporalIdNesting])))

/-- The fields up to the end of the profile, tier and level. -/
def tierBits (fields : SpsFields) : List Bool := fields.headerBits ++ fields.tier.bits

/-- The fields up to the end of the ordering of the sub-layers. -/
def orderingBits (fields : SpsFields) : List Bool :=
  fields.tierBits ++ (fields.size.bits ++ fields.ordering.bits)

structure Fits (fields : SpsFields) : Prop where
  subLayers : fields.tier.subLayers.length ≤ 6
  size : fields.size.Fits
  ordering : fields.ordering.Fits fields.tier.subLayers.length

theorem readHeader_decodes {fields : SpsFields} (few : fields.tier.subLayers.length ≤ 6) :
    Decodes Sps.readHeader fields.headerBits fields.tier.subLayers.length := by
  have skipped : (toBits 6 fields.nuhLayerId ++ (toBits 3 fields.nuhTemporalIdPlus1 ++
      toBits 4 fields.videoParameterSetId)).length = 13 := by
    rw [List.length_append, List.length_append, length_toBits, length_toBits, length_toBits]
  have count : (UInt64.ofNat fields.tier.subLayers.length).toNat = fields.tier.subLayers.length :=
    toNat_small (Nat.lt_of_le_of_lt few (by decide))
  refine (Decodes.readBit false).bind ?_
  rw [refuse_false]
  refine (Decodes.readBits (by decide) (by decide)).bind ?_
  change Decodes (refuse false _ >>= _) _ _
  rw [refuse_false]
  refine (Decodes.skipBits skipped).bind ?_
  refine (Decodes.readBits (by decide) (Nat.lt_of_le_of_lt few (by decide))).bind ?_
  refine (Decodes.skipBits List.length_singleton).finish ?_
  rw [count]
  exact Decodes.pure _

theorem readTier_decodes {fields : SpsFields} (fits : fields.Fits) (profiled : fields.tier.Profiled) :
    Decodes Sps.readTier fields.tierBits fields.tier.subLayers.length := by
  refine (readHeader_decodes fits.subLayers).bind ?_
  have flags := ProfileTierLevel.readSubLayersFlags_decodes fits.subLayers
  have layers := ProfileTierLevel.skipSubLayers_decodes profiled
  exact (flags.bind layers).finish (Decodes.pure _)

/-- The parser passes a profile for every sub-layer. -/
theorem readTier_lands {fields : SpsFields} (fits : fields.Fits) :
    Lands Sps.readTier (fields.headerBits ++ (fields.tier.flagBits ++ []))
      (fields.headerBits.length + (fields.tier.flagBits.length +
        (fields.tier.subLayers.map SubLayer.passed).sum)) := by
  have flags := ProfileTierLevel.readSubLayersFlags_decodes fits.subLayers
  have layers := ProfileTierLevel.skipSubLayers_lands fields.tier.subLayers
  exact (readHeader_decodes fits.subLayers).bindLands ((flags.bindLands layers).map _)

section

variable {fields : SpsFields} (fits : fields.Fits) {data bytes : Bytes} {rest : List Bool}
  (kept : Sps.unescaped data = .ok bytes) (layout : bytesBits bytes = fields.orderingBits ++ rest)

include fits kept layout

theorem standsBehind_tier_iff :
    Sps.StandsBehind Sps.readTier data fields.tierBits.length ↔ fields.tier.Profiled := by
  unfold orderingBits at layout
  constructor
  · intro stands
    have front : bytesBits bytes = (fields.headerBits ++ (fields.tier.flagBits ++ [])) ++
        (fields.tier.subLayers.flatMap SubLayer.bits ++
          ((fields.size.bits ++ fields.ordering.bits) ++ rest)) := by
      rw [layout, tierBits, ProfileTierLevel.bits]
      simp only [List.append_assoc, List.nil_append]
    have same := Sps.eq_of_lands kept front (readTier_lands fits) stands
    rw [tierBits, ProfileTierLevel.bits, List.length_append, List.length_append] at same
    exact (ProfileTierLevel.passed_eq_iff _).mp (by omega)
  · intro profiled
    rw [List.append_assoc] at layout
    exact Sps.standsBehind_of_decodes kept layout (readTier_decodes fits profiled)

theorem standsBehind_ordering_iff (checks : OverflowChecks) (profiled : fields.tier.Profiled) :
    Sps.StandsBehind (Sps.readOrdering checks) data fields.orderingBits.length ↔
      fields.ordering.present = true := by
  obtain ⟨size, sizeRead⟩ := SizeFields.readSize_decodes checks fits.size
  have tier := readTier_decodes fits profiled
  constructor
  · intro stands
    cases shown : fields.ordering.present with
    | true => rfl
    | false =>
        -- The parser stands in front of the triplet of the last sub-layer.
        have ordering := @OrderingInfo.skipOrdering_absent _ fields.tier.subLayers.length checks shown
        have read : Decodes (Sps.readOrdering checks)
            (fields.tierBits ++ (fields.size.bits ++ [fields.ordering.present])) size :=
          tier.bind (sizeRead.bind (ordering.finish (Decodes.pure size)))
        have front : bytesBits bytes =
            (fields.tierBits ++ (fields.size.bits ++ [fields.ordering.present])) ++
              (fields.ordering.triplets.flatMap OrderingTriplet.bits ++ rest) := by
          rw [layout, orderingBits, OrderingInfo.bits]
          simp only [List.append_assoc]
        obtain ⟨state, stop, done, there⟩ := read.run front
        obtain ⟨same, value, other, last, unit, also, behind⟩ := stands
        obtain rfl := Except.ok.inj (kept.symm.trans unit)
        obtain ⟨⟨⟨rfl, rfl⟩⟩, rfl⟩ := Except.ok.inj (done.symm.trans also)
        have more := OrderingInfo.one_lt_length_bits fits.ordering
        have place := there.unique behind
        rw [orderingBits, List.length_append, List.length_append, List.length_append,
          List.length_append, List.length_singleton] at place
        omega
  · intro present
    have ordering := OrderingInfo.skipOrdering_decodes checks fits.ordering present
    exact Sps.standsBehind_of_decodes kept layout
      (tier.bind (sizeRead.bind (ordering.finish (Decodes.pure size))))

/-- The parser stands behind both structures exactly if every sub-layer shows its profile and the
ordering is told for every one. -/
theorem stands_aligned_iff (checks : OverflowChecks) :
    Sps.StandsBehind Sps.readTier data fields.tierBits.length ∧
      Sps.StandsBehind (Sps.readOrdering checks) data fields.orderingBits.length ↔
    fields.tier.Profiled ∧ fields.ordering.present = true := by
  rw [standsBehind_tier_iff fits kept layout]
  exact and_congr_right fun profiled => standsBehind_ordering_iff fits kept layout checks profiled

end

/-- Two temporal layers, of which the first shows neither its profile nor its level. -/
def scalable : SpsFields where
  nuhLayerId := 0
  nuhTemporalIdPlus1 := 1
  videoParameterSetId := 0
  temporalIdNesting := true
  tier := ⟨0x0160000000900000000000, 93, 0, [⟨none, none⟩]⟩
  size := ⟨0, 1, false, 1280, 720, none, 0, 0, 4⟩
  ordering := ⟨true, [⟨3, 0, 0⟩, ⟨4, 2, 0⟩]⟩

def scalableUnit : Bytes :=
  [66, 1, 3, 1, 96, 0, 0, 0, 144, 0, 0, 0, 0, 0, 93, 0, 0, 160, 2, 128, 128, 45, 22, 89, 50, 184, 128,
    128, 128]

theorem scalable_fits : scalable.Fits where
  subLayers := by decide
  size := {
    seqParameterSetId := by decide
    picWidthInLumaSamples := by decide
    picHeightInLumaSamples := by decide
    window := nofun
    bitDepthLumaMinus8 := by decide
    bitDepthChromaMinus8 := by decide
    log2MaxPicOrderCntLsbMinus4 := by decide
    inside := ⟨(2, 2), rfl, by decide, by decide⟩ }
  ordering := {
    length := rfl
    triplets := by
      intro triplet member
      rcases List.mem_pair.mp member with rfl | rfl
      · exact ⟨by decide, by decide, by decide⟩
      · exact ⟨by decide, by decide, by decide⟩ }

theorem scalable_kept : Sps.unescaped (escape scalableUnit) = .ok (scalableUnit.take 26) := by
  decide

theorem scalable_layout : bytesBits (scalableUnit.take 26) =
    scalable.orderingBits ++ [false, false, false] := by
  decide +kernel

theorem scalable_unaligned :
    ¬(Sps.StandsBehind Sps.readTier (escape scalableUnit) scalable.tierBits.length ∧
      Sps.StandsBehind (Sps.readOrdering .on) (escape scalableUnit)
        scalable.orderingBits.length) := by
  intro aligned
  obtain ⟨profiled, _⟩ :=
    (stands_aligned_iff scalable_fits scalable_kept scalable_layout .on).mp aligned
  exact absurd (profiled _ List.mem_cons_self) Bool.false_ne_true

/-- The profile of the first layer is passed although it is not there. -/
theorem scalable_misaligned : bytesBits (scalableUnit.take 26) =
      scalable.orderingBits ++ [false, false, false] ∧
    ¬Sps.StandsBehind Sps.readTier (escape scalableUnit) scalable.tierBits.length := by
  refine ⟨scalable_layout, fun stands => ?_⟩
  have profiled := (standsBehind_tier_iff scalable_fits scalable_kept scalable_layout).mp stands
  exact absurd (profiled _ List.mem_cons_self) Bool.false_ne_true

end SpsFields

end ScuffleVideo.H265
