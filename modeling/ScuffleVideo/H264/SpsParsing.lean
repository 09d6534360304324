import ScuffleVideo.H264.SpsLayout

/-!
# Parsing AVC sequence parameter sets

A parameter set that follows the layout is read field by field, if the fields end three bytes before
the end of the unit.  The size of the picture is the coded size less twice the cropping offsets,
whatever the sampling format and the coding of fields; the standard has a unit for each direction
that depends on both.
-/

namespace ScuffleVideo.H264

open Wire BitReader BitCursor

/-- The sampling format and the depths of an extension. -/
def SpsExtended.numbers (ext : SpsExtended) : Nat × Nat × Nat :=
  (ext.chromaFormatIdc.toNat, ext.bitDepthLumaMinus8.toNat, ext.bitDepthChromaMinus8.toNat)

def ExtensionFields.numbers (fields : ExtensionFields) : Nat × Nat × Nat :=
  (fields.chromaFormatIdc, fields.bitDepthLumaMinus8, fields.bitDepthChromaMinus8)

theorem ExtensionFields.numbers_value {fields : ExtensionFields} (fits : fields.Fits) :
    fields.value.numbers = fields.numbers := by
  unfold value numbers SpsExtended.numbers
  rw [toNat_small fits.chromaFormatIdc, toNat_small fits.bitDepthLumaMinus8,
    toNat_small fits.bitDepthChromaMinus8]

/-! ## Cropping -/

theorem asU64_wraps {value : Int} {number : Nat} (negative : value < 0)
    (same : value + 2 ^ 64 = number) : asU64 .off value = pure number := by
  have wrapped : (value % 2 ^ 64).toNat = number := by omega
  unfold asU64
  rw [if_neg (by omega), wrapped]

/-- What is left of a size, if a build without checks lets the difference wrap. -/
def leftOf (size offsets : Nat) : Nat :=
  if 2 * offsets ≤ size then size - 2 * offsets else 2 ^ 64 + size - 2 * offsets

section

variable {size : Nat} {first second : UInt64} (coded : size < 2 ^ 40)
  (firstSmall : first.toNat < 2 ^ 32) (secondSmall : second.toNat < 2 ^ 32)

include coded firstSmall secondSmall

theorem cropped_eq (checks : OverflowChecks)
    (inside : 2 * (first.toNat + second.toNat) ≤ size ∨ checks = .off) :
    cropped checks size first second = pure (leftOf size (first.toNat + second.toNat)) := by
  have firstCut := @asU64_inside checks (first.toNat * 2) (2 * first.toNat) (by omega) (by omega)
  have secondCut := @asU64_inside checks (second.toNat * 2) (2 * second.toNat) (by omega) (by omega)
  unfold cropped leftOf
  rw [bind_of_pure firstCut]
  by_cases once : 2 * first.toNat ≤ size
  · rw [bind_of_pure (@asU64_inside checks _ (size - 2 * first.toNat) (by omega) (by omega)),
      bind_of_pure secondCut]
    by_cases twice : 2 * (first.toNat + second.toNat) ≤ size
    · rw [if_pos twice]
      exact asU64_inside checks (by omega) (by omega)
    · obtain rfl : checks = .off := inside.resolve_left twice
      rw [if_neg twice]
      exact asU64_wraps (by omega) (by omega)
  · obtain rfl : checks = .off := inside.resolve_left (by omega)
    rw [bind_of_pure (@asU64_wraps _ (2 ^ 64 + size - 2 * first.toNat) (by omega) (by omega)),
      bind_of_pure secondCut, if_neg (by omega)]
    exact asU64_inside .off (by omega) (by omega)

omit coded in
theorem cropped_fails (outside : size < 2 * (first.toNat + second.toNat)) :
    cropped .on size first second = Reader.fail .panic := by
  have firstCut := @asU64_inside .on (first.toNat * 2) (2 * first.toNat) (by omega) (by omega)
  have secondCut := @asU64_inside .on (second.toNat * 2) (2 * second.toNat) (by omega) (by omega)
  unfold cropped
  rw [bind_of_pure firstCut]
  by_cases once : 2 * first.toNat ≤ size
  · rw [bind_of_pure (@asU64_inside .on _ (size - 2 * first.toNat) (by omega) (by omega)),
      bind_of_pure secondCut]
    exact asU64_panics (by omega)
  · exact bind_of_fail (asU64_panics (by omega)) _

end

/-- The parser reads the bytes that are left without emulation prevention. -/
theorem Sps.parse_eq {data bytes : Bytes} (done : unescape data = .ok bytes)
    (checks : OverflowChecks) :
    Sps.parse checks data = match run (Sps.read checks) bytes 0 with
      | .ok ((sps, _), _) => .ok sps
      | .error fault => .error fault := by
  unfold Sps.parse Sps.unescaped Reader.parse
  rw [done]
  dsimp only [bind, Except.bind]
  cases run (Sps.read checks) bytes 0 <;> rfl

namespace SpsFields

variable {fields : SpsFields}

theorem picWidthInSamples_lt (fits : fields.Fits) : fields.picWidthInSamples < 2 ^ 40 := by
  have small := fits.picWidthInMbsMinus1
  rw [picWidthInSamples]
  omega

theorem frameHeight_lt (fits : fields.Fits) : fields.frameHeight < 2 ^ 40 := by
  have small := fits.picHeightInMapUnitsMinus1
  have most := Nat.mul_le_mul_right (fields.picHeightInMapUnitsMinus1 + 1)
    (Nat.sub_le 2 fields.frameMbsOnly.toNat)
  rw [frameHeight]
  omega

theorem computeWidth_eq (checks : OverflowChecks) (fits : fields.Fits) :
    computeWidth checks fields.picture =
      cropped checks fields.picWidthInSamples (UInt64.ofNat fields.crop.right)
        (UInt64.ofNat fields.crop.left) := by
  have small := fits.picWidthInMbsMinus1
  have number : (UInt64.ofNat fields.picWidthInMbsMinus1).toNat = fields.picWidthInMbsMinus1 :=
    toNat_small small
  unfold computeWidth
  rw [bind_of_pure (@asU64_inside checks _ (fields.picWidthInMbsMinus1 + 1)
      (by change ((UInt64.ofNat fields.picWidthInMbsMinus1).toNat : Int) + 1 = _; omega) (by omega)),
    bind_of_pure (@asU64_inside checks _ fields.picWidthInSamples
      (by rw [picWidthInSamples]; omega) (by rw [picWidthInSamples]; omega))]
  rfl

theorem computeHeight_eq (checks : OverflowChecks) (fits : fields.Fits) :
    computeHeight checks fields.picture =
      cropped checks fields.frameHeight (UInt64.ofNat fields.crop.bottom)
        (UInt64.ofNat fields.crop.top) := by
  have small := fits.picHeightInMapUnitsMinus1
  have number : (UInt64.ofNat fields.picHeightInMapUnitsMinus1).toNat =
      fields.picHeightInMapUnitsMinus1 :=
    toNat_small small
  have coded := frameHeight_lt fits
  rw [frameHeight] at coded
  have flag : fields.picture.frameMbsOnlyFlag = fields.frameMbsOnly := rfl
  unfold computeHeight
  rw [flag, bind_of_pure (@asU64_inside checks _ (fields.picHeightInMapUnitsMinus1 + 1)
      (by change ((UInt64.ofNat fields.picHeightInMapUnitsMinus1).toNat : Int) + 1 = _; omega)
      (by omega)),
    bind_of_pure (@asU64_inside checks _
      ((2 - fields.frameMbsOnly.toNat) * (fields.picHeightInMapUnitsMinus1 + 1))
      (Int.natCast_mul _ _).symm (by omega)),
    bind_of_pure (@asU64_inside checks _ fields.frameHeight (by rw [frameHeight]; omega)
      (by rw [frameHeight]; omega))]
  rfl

/-- The size that is computed, where the offsets leave one or the difference may wrap. -/
theorem computeSize_eq (checks : OverflowChecks) (fits : fields.Fits)
    (insideX : 2 * (fields.crop.left + fields.crop.right) ≤ fields.picWidthInSamples ∨ checks = .off)
    (insideY : 2 * (fields.crop.top + fields.crop.bottom) ≤ fields.frameHeight ∨ checks = .off) :
    computeSize checks fields.picture =
      pure (leftOf fields.picWidthInSamples (fields.crop.left + fields.crop.right),
        leftOf fields.frameHeight (fields.crop.top + fields.crop.bottom)) := by
  have offsets := crop_fits fits
  have left := toNat_small offsets.left
  have right := toNat_small offsets.right
  have top := toNat_small offsets.top
  have bottom := toNat_small offsets.bottom
  have width := cropped_eq (picWidthInSamples_lt fits) (right ▸ offsets.right) (left ▸ offsets.left)
    checks (insideX.imp_left (by omega))
  have height := cropped_eq (frameHeight_lt fits) (bottom ▸ offsets.bottom) (top ▸ offsets.top)
    checks (insideY.imp_left (by omega))
  rw [left, right, Nat.add_comm fields.crop.right] at width
  rw [top, bottom, Nat.add_comm fields.crop.bottom] at height
  unfold computeSize
  rw [bind_of_pure ((computeWidth_eq checks fits).trans width),
    bind_of_pure ((computeHeight_eq checks fits).trans height)]

theorem computeSize_fails (fits : fields.Fits)
    (outside : ¬(2 * (fields.crop.left + fields.crop.right) ≤ fields.picWidthInSamples ∧
      2 * (fields.crop.top + fields.crop.bottom) ≤ fields.frameHeight)) :
    computeSize .on fields.picture = Reader.fail .panic := by
  have offsets := crop_fits fits
  have left := toNat_small offsets.left
  have right := toNat_small offsets.right
  have top := toNat_small offsets.top
  have bottom := toNat_small offsets.bottom
  unfold computeSize
  by_cases insideX : 2 * (fields.crop.left + fields.crop.right) ≤ fields.picWidthInSamples
  · have width := cropped_eq (picWidthInSamples_lt fits) (right ▸ offsets.right)
      (left ▸ offsets.left) .on (.inl (by omega))
    rw [bind_of_pure ((computeWidth_eq .on fits).trans width)]
    have height := @cropped_fails fields.frameHeight _ _ (bottom ▸ offsets.bottom)
      (top ▸ offsets.top) (by omega)
    exact bind_of_fail ((computeHeight_eq .on fits).trans height) _
  · have width := @cropped_fails fields.picWidthInSamples _ _ (right ▸ offsets.right)
      (left ▸ offsets.left) (by omega)
    exact bind_of_fail ((computeWidth_eq .on fits).trans width) _

/-! ## The unit -/

/-- The bits that end three bytes before the end of the unit stand in front of the bytes that the
parser reads. -/
theorem unescape_bits {unit : Bytes} {bits rest : List Bool} (layout : bytesBits unit = bits ++ rest)
    (room : (escape (unit.take ((bits.length + 7) / 8))).length + 3 ≤ (escape unit).length) :
    ∃ bytes more, unescape (escape unit) = .ok bytes ∧ bytesBits bytes = bits ++ more := by
  obtain ⟨tail, done⟩ := unescape_take room
  refine ⟨_, rest.take (8 * ((bits.length + 7) / 8) - bits.length) ++ bytesBits tail, done, ?_⟩
  rw [bytesBits_append, bytesBits_take, layout, List.take_append,
    List.take_of_length_le (by omega), List.append_assoc]

section

variable {data bytes : Bytes} {rest : List Bool} (kept : Sps.unescaped data = .ok bytes)
  (layout : bytesBits bytes = fields.bits ++ rest)

include kept layout

theorem parse_eq_ok {checks : OverflowChecks} (fits : fields.Fits) {width height : Nat}
    (size : computeSize checks fields.picture = pure (width, height)) :
    Sps.parse checks data = .ok (fields.value width height) := by
  obtain ⟨state, stop, read, _⟩ := (read_decodes checks fits size).run layout
  rw [Sps.parse_eq kept, read]

theorem parse_eq_error {checks : OverflowChecks} (fits : fields.Fits) {fault : IoFault}
    (size : computeSize checks fields.picture = Reader.fail fault) :
    Sps.parse checks data = .error fault := by
  rw [Sps.parse_eq kept, (read_fails checks fits size).run layout]

end

/-- A parameter set whose offsets leave a picture is read as it was written. -/
theorem parse_reads_fields (checks : OverflowChecks) (fits : fields.Fits) {unit : Bytes} {rest : List Bool}
    (layout : bytesBits unit = fields.bits ++ rest)
    (room : (escape (unit.take ((fields.bits.length + 7) / 8))).length + 3 ≤ (escape unit).length)
    (insideX : 2 * (fields.crop.left + fields.crop.right) ≤ fields.picWidthInSamples)
    (insideY : 2 * (fields.crop.top + fields.crop.bottom) ≤ fields.frameHeight) :
    ∃ sps, Sps.parse checks (escape unit) = .ok sps ∧ sps.profileIdc = fields.profileIdc ∧
      sps.levelIdc = fields.levelIdc ∧ sps.ext.map SpsExtended.numbers =
        fields.extension.map ExtensionFields.numbers ∧
      sps.colorConfig = fields.colorConfig ∧ sps.frameRate = fields.frameRate := by
  obtain ⟨bytes, more, kept, stands⟩ := unescape_bits layout room
  have size := computeSize_eq checks fits (.inl insideX) (.inl insideY)
  refine ⟨_, parse_eq_ok kept stands fits size, rfl, rfl, ?_, rfl, rfl⟩
  change (fields.extension.map ExtensionFields.value).map SpsExtended.numbers = _
  cases found : fields.extension with
  | none => rfl
  | some extension => exact congrArg some (extension.numbers_value (fits.extension extension found))

/-- A high profile with a scaling list, a cycle of pictures, colours and a frame rate. -/
def highProfile : SpsFields where
  nalRefIdc := 3
  profileIdc := 100
  constraintSetFlags := 0
  levelIdc := 31
  seqParameterSetId := 0
  extension := some ⟨1, false, 0, 0, false, some [some [-8], none, none, none, none, none, none, none]⟩
  log2MaxFrameNumMinus4 := 0
  picOrderCnt := .cycle false 0 (-1) [2, -3]
  maxNumRefFrames := 4
  gapsInFrameNumValueAllowed := false
  picWidthInMbsMinus1 := 79
  picHeightInMapUnitsMinus1 := 44
  frameMbsOnly := true
  mbAdaptiveFrameField := false
  direct8x8Inference := true
  cropping := none
  vui := some ⟨none, none, some ⟨5, true, some (1, 1, 1)⟩, none, some ⟨1, 50⟩⟩

def highProfileUnit : Bytes :=
  [103, 100, 0, 31, 173, 132, 64, 82, 217, 14, 80, 20, 1, 110, 155, 128, 128, 128, 160, 0, 0, 0, 32,
    0, 0, 6, 72, 40, 128, 128]

theorem highProfile_fits : highProfile.Fits where
  seqParameterSetId := by decide
  extended := rfl
  extension := by
    rintro extension ⟨⟩
    refine ⟨by decide, by decide, by decide, ?_⟩
    rintro lists ⟨⟩
    have absent {size : Nat} : ∀ deltas ∈ (none : Option (List Int)),
        EndsScale size 8 deltas ∧ ∀ delta ∈ deltas, SmallSigned delta := nofun
    refine .cons ?_ (.cons absent (.cons absent (.cons absent (.cons absent (.cons absent
      (.cons absent (.cons absent .nil)))))))
    rintro deltas ⟨⟩
    refine ⟨rfl, fun delta member => ?_⟩
    obtain rfl := List.mem_singleton.mp member
    exact ⟨by decide, by decide⟩
  log2MaxFrameNumMinus4 := by decide
  picOrderCnt := by
    refine ⟨⟨by decide, by decide⟩, ⟨by decide, by decide⟩, by decide, fun offset member => ?_⟩
    rcases List.mem_pair.mp member with rfl | rfl
    · exact ⟨by decide, by decide⟩
    · exact ⟨by decide, by decide⟩
  maxNumRefFrames := by decide
  picWidthInMbsMinus1 := by decide
  picHeightInMapUnitsMinus1 := by decide
  cropping := nofun
  vui := by
    rintro vui ⟨⟩
    exact ⟨nofun, by rintro timing ⟨⟩; decide⟩

theorem highProfile_parse_reads_fields : ∃ sps, Sps.parse .on (escape highProfileUnit) = .ok sps ∧
    sps.profileIdc = 100 ∧ sps.levelIdc = 31 ∧ sps.ext.map SpsExtended.numbers = some (1, 0, 0) ∧
    sps.colorConfig = some ⟨true, 1, 1, 1⟩ ∧ sps.frameRate = frameRateOf 50 1 := by
  have layout : bytesBits highProfileUnit =
      highProfile.bits ++ (bytesBits highProfileUnit).drop highProfile.bits.length := by decide +kernel
  exact parse_reads_fields .on highProfile_fits layout (by decide +kernel) (by decide) (by decide)

/-! ## Cropping units -/

/-- Without the extension the sampling format is 4:2:0, and planes that are coded apart are
monochrome pictures. -/
def chromaArrayType (fields : SpsFields) : Nat :=
  fields.extension.elim 1 fun extension =>
    if extension.chromaFormatIdc = 3 ∧ extension.separateColourPlane then 0
    else extension.chromaFormatIdc

def subWidthC : Nat → Nat
  | 1 => 2
  | 2 => 2
  | _ => 1

def subHeightC : Nat → Nat
  | 1 => 2
  | _ => 1

/-- The samples of luma that an offset to the left or right stands for. -/
def cropUnitX (fields : SpsFields) : Nat := subWidthC fields.chromaArrayType

/-- The rows of a frame that an offset to the top or bottom stands for. -/
def cropUnitY (fields : SpsFields) : Nat :=
  subHeightC fields.chromaArrayType * (2 - fields.frameMbsOnly.toNat)

/-- The size of the cropped picture in the standard. -/
def croppedWidth (fields : SpsFields) : Nat :=
  fields.picWidthInSamples - fields.cropUnitX * (fields.crop.left + fields.crop.right)

def croppedHeight (fields : SpsFields) : Nat :=
  fields.frameHeight - fields.cropUnitY * (fields.crop.top + fields.crop.bottom)

/-- Taking two for the unit leaves the same if the unit is two or nothing is cropped. -/
theorem leftOf_eq_iff {size factor offsets : Nat} (inside : factor * offsets ≤ size)
    (unit : factor = 1 ∨ factor = 2 ∨ factor = 4) (coded : size < 2 ^ 40) :
    leftOf size offsets = size - factor * offsets ↔ factor = 2 ∨ offsets = 0 := by
  unfold leftOf
  rcases unit with rfl | rfl | rfl <;> split <;> omega

theorem cropUnitX_cases (fields : SpsFields) : fields.cropUnitX = 1 ∨ fields.cropUnitX = 2 := by
  unfold cropUnitX subWidthC
  split <;> simp

theorem cropUnitY_cases (fields : SpsFields) :
    fields.cropUnitY = 1 ∨ fields.cropUnitY = 2 ∨ fields.cropUnitY = 4 := by
  unfold cropUnitY subHeightC
  cases fields.frameMbsOnly <;> split <;> simp

theorem toNat_leftOf {size offsets : Nat} (coded : size < 2 ^ 40) (small : offsets < 2 ^ 33) :
    (UInt64.ofNat (leftOf size offsets)).toNat = leftOf size offsets := by
  refine UInt64.toNat_ofNat_of_lt' ?_
  change leftOf size offsets < 2 ^ 64
  unfold leftOf
  split <;> omega

section

variable (fits : fields.Fits) {data bytes : Bytes} {rest : List Bool}
  (kept : Sps.unescaped data = .ok bytes) (layout : bytesBits bytes = fields.bits ++ rest)

include fits kept layout

theorem parse_sizes {checks : OverflowChecks}
    (insideX : 2 * (fields.crop.left + fields.crop.right) ≤ fields.picWidthInSamples ∨ checks = .off)
    (insideY : 2 * (fields.crop.top + fields.crop.bottom) ≤ fields.frameHeight ∨ checks = .off) :
    ∃ sps, Sps.parse checks data = .ok sps ∧
      sps.width.toNat = leftOf fields.picWidthInSamples (fields.crop.left + fields.crop.right) ∧
      sps.height.toNat = leftOf fields.frameHeight (fields.crop.top + fields.crop.bottom) := by
  have offsets := crop_fits fits
  have left := offsets.left
  have right := offsets.right
  have top := offsets.top
  have bottom := offsets.bottom
  exact ⟨_, parse_eq_ok kept layout fits (computeSize_eq checks fits insideX insideY),
    toNat_leftOf (picWidthInSamples_lt fits) (by omega), toNat_leftOf (frameHeight_lt fits) (by omega)⟩

/-- The returned size is the one of the standard exactly if the unit of a direction is two or
nothing is cropped in it. -/
theorem parse_crops_iff (checks : OverflowChecks)
    (insideX : fields.cropUnitX * (fields.crop.left + fields.crop.right) ≤ fields.picWidthInSamples)
    (insideY : fields.cropUnitY * (fields.crop.top + fields.crop.bottom) ≤ fields.frameHeight) :
    (∃ sps, Sps.parse checks data = .ok sps ∧ sps.width.toNat = fields.croppedWidth ∧
      sps.height.toNat = fields.croppedHeight) ↔
    (fields.cropUnitX = 2 ∨ fields.crop.left + fields.crop.right = 0) ∧
      (fields.cropUnitY = 2 ∨ fields.crop.top + fields.crop.bottom = 0) := by
  have width := leftOf_eq_iff insideX (fields.cropUnitX_cases.imp_right .inl)
    (picWidthInSamples_lt fits)
  have height := leftOf_eq_iff insideY fields.cropUnitY_cases (frameHeight_lt fits)
  rw [← width, ← height]
  by_cases returned : (2 * (fields.crop.left + fields.crop.right) ≤ fields.picWidthInSamples ∨
      checks = .off) ∧ (2 * (fields.crop.top + fields.crop.bottom) ≤ fields.frameHeight ∨ checks = .off)
  · obtain ⟨sps, parsed, widthRead, heightRead⟩ :=
      parse_sizes fits kept layout returned.1 returned.2
    constructor
    · rintro ⟨other, same, sizes⟩
      obtain rfl := Except.ok.inj (parsed.symm.trans same)
      exact ⟨widthRead.symm.trans sizes.1, heightRead.symm.trans sizes.2⟩
    · rintro ⟨sameX, sameY⟩
      exact ⟨sps, parsed, widthRead.trans sameX, heightRead.trans sameY⟩
  · -- With checks the subtraction traps, so that the cropped picture would have to be larger.
    have checked : checks = .on := by
      cases checks with
      | on => rfl
      | off => exact absurd ⟨.inr rfl, .inr rfl⟩ returned
    subst checked
    have failed := parse_eq_error kept layout fits (computeSize_fails fits (by simpa using returned))
    constructor
    · rintro ⟨sps, same, _⟩
      cases failed.symm.trans same
    · rintro ⟨sameX, sameY⟩
      refine absurd ⟨.inl ?_, .inl ?_⟩ returned
      · rcases width.mp sameX with two | none
        · rw [two] at insideX
          exact insideX
        · omega
      · rcases height.mp sameY with two | none
        · rw [two] at insideY
          exact insideY
        · omega

end

/-- Frames of 1088 coded rows that show 1080, coded as fields. -/
def interlaced : SpsFields where
  nalRefIdc := 3
  profileIdc := 77
  constraintSetFlags := 0
  levelIdc := 40
  seqParameterSetId := 0
  extension := none
  log2MaxFrameNumMinus4 := 0
  picOrderCnt := .lsb 2
  maxNumRefFrames := 4
  gapsInFrameNumValueAllowed := false
  picWidthInMbsMinus1 := 119
  picHeightInMapUnitsMinus1 := 33
  frameMbsOnly := false
  mbAdaptiveFrameField := true
  direct8x8Inference := true
  cropping := some ⟨0, 0, 0, 2⟩
  vui := none

def interlacedUnit : Bytes := [103, 77, 0, 40, 236, 160, 60, 2, 39, 236, 160, 128, 128]

theorem interlaced_fits : interlaced.Fits where
  seqParameterSetId := by decide
  extended := rfl
  extension := nofun
  log2MaxFrameNumMinus4 := by decide
  picOrderCnt := show 2 < 2 ^ 32 by decide
  maxNumRefFrames := by decide
  picWidthInMbsMinus1 := by decide
  picHeightInMapUnitsMinus1 := by decide
  cropping := by
    rintro cropping ⟨⟩
    exact ⟨by decide, by decide, by decide, by decide⟩
  vui := nofun

theorem interlaced_layout : bytesBits (interlacedUnit.take 10) = interlaced.bits ++ [false] := by
  decide +kernel

theorem interlaced_uncropped : ¬∃ sps, Sps.parse .on (escape interlacedUnit) = .ok sps ∧
    sps.width.toNat = 1920 ∧ sps.height.toNat = 1080 := by
  intro cropped
  have units := (parse_crops_iff interlaced_fits (by decide) interlaced_layout .on (by decide)
    (by decide)).mp cropped
  exact absurd units.2 (by decide)

/-- The standard shows 1080 rows of the interlaced picture, the parser returns 1084. -/
theorem interlaced_height :
    interlaced.cropUnitY * (interlaced.crop.top + interlaced.crop.bottom) ≤ interlaced.frameHeight ∧
      interlaced.croppedHeight = 1080 ∧
      ∃ sps, Sps.parse .on (escape interlacedUnit) = .ok sps ∧ sps.height = 1084 :=
  ⟨by decide, by decide, _, parse_eq_ok (by decide) interlaced_layout interlaced_fits
    (computeSize_eq .on interlaced_fits (.inl (by decide)) (.inl (by decide))), by decide⟩

end SpsFields

end ScuffleVideo.H264
