import ScuffleVideo.Wire.Numerals

/-!
# Codec strings

A codec is written as parts with dots between them, and parsed from such parts.  A part that is not
there and a slice that does not fall between characters are panics; everything else that is wrong
with a string is an error with a message.
-/

namespace ScuffleVideo.Mp4

open Wire

inductive VideoCodec where
  | avc (profile constraintSet level : UInt8)
  | hevc (generalProfileSpace : UInt8) (profileCompatibility : UInt32) (profile level : UInt8)
      (tier : Bool) (constraintIndicator : UInt64)
  | av1 (profile level : UInt8) (tier : Bool) (depth : UInt8)
      (monochrome subSamplingX subSamplingY : Bool)
      (colorPrimaries transferCharacteristics matrixCoefficients : UInt8) (fullRangeFlag : Bool)
  deriving DecidableEq, Repr

inductive AudioObjectType where
  | aacMain
  | aacLowComplexity
  | unknown (value : UInt16)
  deriving DecidableEq, Repr

def AudioObjectType.asU16 : AudioObjectType → UInt16
  | .aacMain => 1
  | .aacLowComplexity => 2
  | .unknown value => value

def AudioObjectType.fromU16 (value : UInt16) : AudioObjectType :=
  if value = 1 then .aacMain
  else if value = 2 then .aacLowComplexity
  else .unknown value

inductive AudioCodec where
  | aac (objectType : AudioObjectType)
  | opus
  deriving DecidableEq, Repr

/-- How parsing ends other than with a codec. -/
inductive CodecFault where
  | invalid (message : String)
  | panic
  deriving DecidableEq, Repr

/-! ## Writing -/

def formatFlag (flag : Bool) : Text := formatted 10 1 (if flag then 1 else 0)

def formatProfileSpace (generalProfileSpace : UInt8) : Text :=
  if generalProfileSpace = 1 then ['A']
  else if generalProfileSpace = 2 then ['B']
  else if generalProfileSpace = 3 then ['C']
  else []

def formatAvc (profile constraintSet level : UInt8) : Text :=
  "avc1".toList ++ ['.'] ++ formatted 16 2 profile.toNat ++ formatted 16 2 constraintSet.toNat ++
    formatted 16 2 level.toNat

def formatHevc (generalProfileSpace : UInt8) (profileCompatibility : UInt32) (profile level : UInt8)
    (tier : Bool) (constraintIndicator : UInt64) : Text :=
  "hev1".toList ++
    ['.'] ++ formatProfileSpace generalProfileSpace ++ formatted 16 1 profile.toNat ++
    ['.'] ++ formatted 16 1 profileCompatibility.toNat ++
    ['.'] ++ [if tier then 'H' else 'L'] ++ formatted 16 1 level.toNat ++
    ['.'] ++ formatted 16 1 constraintIndicator.toNat

/-- The tier of an AV1 codec stands behind its level, and the monochrome flag is written twice. -/
def formatAv1 (profile level : UInt8) (tier : Bool) (depth : UInt8)
    (monochrome subSamplingX subSamplingY : Bool)
    (colorPrimaries transferCharacteristics matrixCoefficients : UInt8) (fullRangeFlag : Bool) : Text :=
  "av01".toList ++
    ['.'] ++ formatted 10 1 profile.toNat ++
    ['.'] ++ formatted 10 1 level.toNat ++ [if tier then 'H' else 'M'] ++
    ['.'] ++ formatted 10 2 depth.toNat ++
    ['.'] ++ formatFlag monochrome ++
    ['.'] ++ formatFlag subSamplingX ++ formatFlag subSamplingY ++ formatFlag monochrome ++
    ['.'] ++ formatted 10 2 colorPrimaries.toNat ++
    ['.'] ++ formatted 10 2 transferCharacteristics.toNat ++
    ['.'] ++ formatted 10 2 matrixCoefficients.toNat ++
    ['.'] ++ formatFlag fullRangeFlag

def VideoCodec.toText : VideoCodec → Text
  | .avc profile constraintSet level => formatAvc profile constraintSet level
  | .hevc generalProfileSpace profileCompatibility profile level tier constraintIndicator =>
      formatHevc generalProfileSpace profileCompatibility profile level tier constraintIndicator
  | .av1 profile level tier depth monochrome subSamplingX subSamplingY colorPrimaries
      transferCharacteristics matrixCoefficients fullRangeFlag =>
      formatAv1 profile level tier depth monochrome subSamplingX subSamplingY colorPrimaries
        transferCharacteristics matrixCoefficients fullRangeFlag

def VideoCodec.toString (codec : VideoCodec) : String := String.ofList codec.toText

def formatAac (objectType : AudioObjectType) : Text :=
  "mp4a".toList ++ ['.'] ++ "40".toList ++ ['.'] ++ formatted 10 1 objectType.asU16.toNat

def AudioCodec.toText : AudioCodec → Text
  | .aac objectType => formatAac objectType
  | .opus => "opus".toList

def AudioCodec.toString (codec : AudioCodec) : String := String.ofList codec.toText

/-! ## Parsing -/

/-- A part by its index. -/
def part (splits : List Text) (index : Nat) : Except CodecFault Text :=
  match splits[index]? with
  | some text => .ok text
  | none => .error .panic

def sliceOf (start stop : Nat) (text : Text) : Except CodecFault Text :=
  match sliceText start stop text with
  | some text => .ok text
  | none => .error .panic

/-- A number below a bound.  The message shows the part that the number stands in. -/
def number (radix bound : Nat) (what : String) (shown text : Text) : Except CodecFault Nat :=
  match fromStrRadix radix bound text with
  | .ok value => .ok value
  | .error fault => .error (.invalid ("invalid codec, invalid " ++ what ++ ": " ++
      String.ofList shown ++ ", " ++ fault.message))

/-- A part that is one of two texts. -/
def flag (what : String) (yes no text : Text) : Except CodecFault Bool :=
  if text = yes then .ok true
  else if text = no then .ok false
  else .error (.invalid ("invalid codec, invalid " ++ what ++ ": " ++ String.ofList text))

def profileSpace (text : Text) : Except CodecFault UInt8 :=
  if text = ['A'] then .ok 1
  else if text = ['B'] then .ok 2
  else if text = ['C'] then .ok 3
  else .error (.invalid ("invalid codec, invalid general profile space: " ++ String.ofList text))

def parseAvc (splits : List Text) : Except CodecFault VideoCodec :=
  if splits.length < 2 then .error (.invalid "invalid codec, missing profile")
  else do
    let shown ← part splits 1
    let profile ← number 16 (2 ^ 8) "profile" shown (← sliceOf 0 2 shown)
    let constraintSet ← number 16 (2 ^ 8) "constraint set" shown (← sliceOf 2 4 shown)
    let level ← number 16 (2 ^ 8) "level" shown (← sliceOf 4 6 shown)
    return .avc (UInt8.ofNat profile) (UInt8.ofNat constraintSet) (UInt8.ofNat level)

/-- Six parts are asked for and the seventh is read. -/
def parseHevc (splits : List Text) : Except CodecFault VideoCodec :=
  if splits.length < 6 then .error (.invalid "invalid codec, missing profile")
  else do
    let generalProfileSpace ← profileSpace (← part splits 1)
    let shown ← part splits 2
    let profile ← number 16 (2 ^ 8) "profile" shown shown
    let shown ← part splits 3
    let profileCompatibility ← number 16 (2 ^ 32) "profile compatibility" shown shown
    let tier ← flag "tier" ['H'] ['L'] (← part splits 4)
    let shown ← part splits 5
    let level ← number 16 (2 ^ 8) "level" shown shown
    let shown ← part splits 6
    let constraintIndicator ← number 16 (2 ^ 64) "constraint indicator" shown shown
    return .hevc generalProfileSpace (UInt32.ofNat profileCompatibility) (UInt8.ofNat profile)
      (UInt8.ofNat level) tier (UInt64.ofNat constraintIndicator)

def parseAv1 (splits : List Text) : Except CodecFault VideoCodec :=
  if splits.length < 12 then .error (.invalid "invalid codec, missing profile")
  else do
    let shown ← part splits 1
    let profile ← number 16 (2 ^ 8) "profile" shown shown
    let shown ← part splits 2
    let level ← number 16 (2 ^ 8) "level" shown shown
    let tier ← flag "tier" ['H'] ['M'] (← part splits 3)
    let shown ← part splits 4
    let depth ← number 10 (2 ^ 8) "depth" shown shown
    let monochrome ← flag "monochrome" ['1'] ['0'] (← part splits 5)
    let subSamplingX ← flag "sub_sampling_x" ['1'] ['0'] (← part splits 6)
    let subSamplingY ← flag "sub_sampling_y" ['1'] ['0'] (← part splits 7)
    let shown ← part splits 8
    let colorPrimaries ← number 10 (2 ^ 8) "color_primaries" shown shown
    let shown ← part splits 9
    let transferCharacteristics ← number 10 (2 ^ 8) "transfer_characteristics" shown shown
    let shown ← part splits 10
    let matrixCoefficients ← number 10 (2 ^ 8) "matrix_coefficients" shown shown
    let shown ← part splits 11
    let fullRangeFlag ← number 10 (2 ^ 8) "full_range_flag" shown shown
    return .av1 (UInt8.ofNat profile) (UInt8.ofNat level) tier (UInt8.ofNat depth) monochrome
      subSamplingX subSamplingY (UInt8.ofNat colorPrimaries) (UInt8.ofNat transferCharacteristics)
      (UInt8.ofNat matrixCoefficients) (fullRangeFlag == 1)

def parseVideo (splits : List Text) : Except CodecFault VideoCodec :=
  if splits.isEmpty then .error (.invalid "invalid codec, empty string")
  else do
    let first ← part splits 0
    if first = "avc1".toList then parseAvc splits
    else if first = "hev1".toList then parseHevc splits
    else if first = "av01".toList then parseAv1 splits
    else .error (.invalid ("invalid codec, unknown type: " ++ String.ofList first))

def VideoCodec.fromStr (text : String) : Except CodecFault VideoCodec :=
  parseVideo (text.toList.splitOn '.')

def parseMp4a (splits : List Text) : Except CodecFault AudioCodec :=
  if splits.length < 3 then .error (.invalid "invalid codec, missing object type")
  else do
    let shown ← part splits 2
    let objectType ← number 10 (2 ^ 16) "object type" shown shown
    return .aac (.fromU16 (UInt16.ofNat objectType))

def parseAudio (splits : List Text) : Except CodecFault AudioCodec :=
  if splits.isEmpty then .error (.invalid "invalid codec, empty string")
  else do
    let first ← part splits 0
    if first = "mp4a".toList then parseMp4a splits
    else if first = "opus".toList then .ok .opus
    else .error (.invalid ("invalid codec, unknown type: " ++ String.ofList first))

def AudioCodec.fromStr (text : String) : Except CodecFault AudioCodec :=
  parseAudio (text.toList.splitOn '.')

/-! ## Parts of what is written -/

section Written

variable (profile level depth generalProfileSpace colorPrimaries transferCharacteristics
  matrixCoefficients : UInt8) (profileCompatibility : UInt32) (constraintIndicator : UInt64)
  (tier monochrome subSamplingX subSamplingY fullRangeFlag : Bool)

/-- Parts without dots that are joined with dots are the parts again. -/
theorem splitOn_joined {text : Text} {parts : List Text} (joined : text = ['.'].intercalate parts)
    (dotless : ∀ part ∈ parts, '.' ∉ part) (nonempty : parts ≠ []) : text.splitOn '.' = parts := by
  rw [joined]
  exact List.splitOn_intercalate '.' dotless nonempty

theorem dot_notMem_hex (width number : Nat) : '.' ∉ formatted 16 width number :=
  dot_notMem_formatted (by decide) (by decide) width number

theorem dot_notMem_decimal (width number : Nat) : '.' ∉ formatted 10 width number :=
  dot_notMem_formatted (by decide) (by decide) width number

theorem dot_notMem_letter {yes no : Char} (first : '.' ≠ yes) (second : '.' ≠ no) :
    '.' ∉ [if tier then yes else no] := by
  cases tier with
  | false => exact fun present => second (List.mem_singleton.mp present)
  | true => exact fun present => first (List.mem_singleton.mp present)

theorem dot_notMem_profileSpace : '.' ∉ formatProfileSpace generalProfileSpace := by
  unfold formatProfileSpace
  split
  · decide
  · split
    · decide
    · split <;> decide

/-- An AVC codec has two parts. -/
theorem splitOn_avc (constraintSet : UInt8) :
    (formatAvc profile constraintSet level).splitOn '.' =
      ["avc1".toList, formatted 16 2 profile.toNat ++ (formatted 16 2 constraintSet.toNat ++
        formatted 16 2 level.toNat)] := by
  refine splitOn_joined ?_ ?_ (List.cons_ne_nil _ _)
  · unfold formatAvc
    simp only [List.intercalate_cons_cons, List.intercalate_singleton, List.append_assoc]
  · simp only [List.forall_mem_cons, List.mem_append, dot_notMem_hex, or_self, not_false_eq_true,
      List.not_mem_nil, false_imp_iff, implies_true, and_true]
    decide

/-- An HEVC codec is written in five parts. -/
theorem splitOn_hevc :
    (formatHevc generalProfileSpace profileCompatibility profile level tier
      constraintIndicator).splitOn '.' =
      ["hev1".toList, formatProfileSpace generalProfileSpace ++ formatted 16 1 profile.toNat,
        formatted 16 1 profileCompatibility.toNat,
        [if tier then 'H' else 'L'] ++ formatted 16 1 level.toNat,
        formatted 16 1 constraintIndicator.toNat] := by
  refine splitOn_joined ?_ ?_ (List.cons_ne_nil _ _)
  · unfold formatHevc
    simp only [List.intercalate_cons_cons, List.intercalate_singleton, List.append_assoc]
  · have letter := @dot_notMem_letter tier 'H' 'L' (by decide) (by decide)
    simp only [List.forall_mem_cons, List.mem_append, dot_notMem_hex, letter, dot_notMem_profileSpace,
      or_self, not_false_eq_true, List.not_mem_nil, false_imp_iff, implies_true, and_true]
    decide

/-- An AV1 codec is written in ten parts. -/
theorem splitOn_av1 :
    (formatAv1 profile level tier depth monochrome subSamplingX subSamplingY colorPrimaries
      transferCharacteristics matrixCoefficients fullRangeFlag).splitOn '.' =
      ["av01".toList, formatted 10 1 profile.toNat,
        formatted 10 1 level.toNat ++ [if tier then 'H' else 'M'], formatted 10 2 depth.toNat,
        formatFlag monochrome,
        formatFlag subSamplingX ++ (formatFlag subSamplingY ++ formatFlag monochrome),
        formatted 10 2 colorPrimaries.toNat, formatted 10 2 transferCharacteristics.toNat,
        formatted 10 2 matrixCoefficients.toNat, formatFlag fullRangeFlag] := by
  refine splitOn_joined ?_ ?_ (List.cons_ne_nil _ _)
  · unfold formatAv1
    simp only [List.intercalate_cons_cons, List.intercalate_singleton, List.append_assoc]
  · have letter := @dot_notMem_letter tier 'H' 'M' (by decide) (by decide)
    simp only [List.forall_mem_cons, List.mem_append, dot_notMem_decimal, letter, formatFlag,
      or_self, not_false_eq_true, List.not_mem_nil, false_imp_iff, implies_true, and_true]
    decide

end Written

/-! ## Reading back -/

theorem ok_bind {α β : Type} (value : α) (next : α → Except CodecFault β) :
    (Except.ok value >>= next) = next value := rfl

theorem number_formatted {radix bound value : Nat} (wide : 1 < radix) (narrow : radix ≤ 16)
    (small : value < bound) (what : String) (shown : Text) (width : Nat) :
    number radix bound what shown (formatted radix width value) = .ok value := by
  rw [number, fromStrRadix_formatted wide narrow small]

theorem sliceOf_append {start stop : Nat} {front middle : Text} (before : utf8Length front = start)
    (sized : utf8Length middle = stop - start) (back : Text) :
    sliceOf start stop (front ++ (middle ++ back)) = .ok middle := by
  rw [sliceOf, sliceText_append before sized]

/-- Every AVC codec is read back. -/
theorem fromStr_avc (profile constraintSet level : UInt8) :
    VideoCodec.fromStr (VideoCodec.avc profile constraintSet level).toString =
      .ok (.avc profile constraintSet level) := by
  have profileSize := utf8Length_formatted_byte profile.toNat_lt
  have constraintSize := utf8Length_formatted_byte constraintSet.toNat_lt
  have levelSize := utf8Length_formatted_byte level.toNat_lt
  obtain ⟨shown, whole⟩ : ∃ shown, shown = formatted 16 2 profile.toNat ++
    (formatted 16 2 constraintSet.toNat ++ formatted 16 2 level.toNat) := ⟨_, rfl⟩
  have first : sliceOf 0 2 shown = .ok (formatted 16 2 profile.toNat) := by
    rw [whole]
    exact @sliceOf_append 0 2 [] _ rfl profileSize _
  have second : sliceOf 2 4 shown = .ok (formatted 16 2 constraintSet.toNat) := by
    rw [whole]
    exact sliceOf_append profileSize constraintSize _
  have third : sliceOf 4 6 shown = .ok (formatted 16 2 level.toNat) := by
    have before : utf8Length (formatted 16 2 profile.toNat ++ formatted 16 2 constraintSet.toNat) = 4 := by
      rw [utf8Length_append, profileSize, constraintSize]
    have last := @sliceOf_append 4 6 _ _ before levelSize []
    rwa [List.append_nil, List.append_assoc, ← whole] at last
  have split : (VideoCodec.avc profile constraintSet level).toString.toList.splitOn '.' =
      ["avc1".toList, shown] := by
    rw [whole, VideoCodec.toString, String.toList_ofList]
    exact splitOn_avc profile level constraintSet
  rw [VideoCodec.fromStr, split]
  change parseAvc ["avc1".toList, shown] = _
  have profileRead := number_formatted (show 1 < 16 by decide) (by decide) profile.toNat_lt "profile"
    shown 2
  have constraintRead := number_formatted (show 1 < 16 by decide) (by decide) constraintSet.toNat_lt
    "constraint set" shown 2
  have levelRead := number_formatted (show 1 < 16 by decide) (by decide) level.toNat_lt "level" shown 2
  rw [parseAvc, if_neg (show ¬["avc1".toList, shown].length < 2 from Nat.lt_irrefl 2),
    show part ["avc1".toList, shown] 1 = .ok shown from rfl, ok_bind,
    first, ok_bind, profileRead, ok_bind, second, ok_bind, constraintRead, ok_bind, third, ok_bind,
    levelRead, ok_bind, UInt8.ofNat_toNat, UInt8.ofNat_toNat, UInt8.ofNat_toNat]
  rfl

/-- An HEVC codec is not read back: the parser asks for more parts than are written. -/
theorem fromStr_hevc (generalProfileSpace profile level : UInt8) (profileCompatibility : UInt32)
    (tier : Bool) (constraintIndicator : UInt64) :
    VideoCodec.fromStr (VideoCodec.hevc generalProfileSpace profileCompatibility profile level tier
      constraintIndicator).toString = .error (.invalid "invalid codec, missing profile") := by
  rw [VideoCodec.fromStr, VideoCodec.toString, String.toList_ofList]
  change parseVideo ((formatHevc generalProfileSpace profileCompatibility profile level tier
    constraintIndicator).splitOn '.') = _
  rw [splitOn_hevc]
  rfl

/-- Nor is an AV1 codec, for the same reason. -/
theorem fromStr_av1 (profile level depth colorPrimaries transferCharacteristics
    matrixCoefficients : UInt8) (tier monochrome subSamplingX subSamplingY fullRangeFlag : Bool) :
    VideoCodec.fromStr (VideoCodec.av1 profile level tier depth monochrome subSamplingX subSamplingY
      colorPrimaries transferCharacteristics matrixCoefficients fullRangeFlag).toString =
      .error (.invalid "invalid codec, missing profile") := by
  rw [VideoCodec.fromStr, VideoCodec.toString, String.toList_ofList]
  change parseVideo ((formatAv1 profile level tier depth monochrome subSamplingX subSamplingY
    colorPrimaries transferCharacteristics matrixCoefficients fullRangeFlag).splitOn '.') = _
  rw [splitOn_av1]
  rfl

theorem AudioObjectType.fromU16_asU16 (objectType : AudioObjectType) :
    fromU16 objectType.asU16 = objectType ↔
      objectType ≠ .unknown 1 ∧ objectType ≠ .unknown 2 := by
  cases objectType with
  | aacMain => decide
  | aacLowComplexity => decide
  | unknown value =>
      unfold asU16 fromU16
      by_cases one : value = 1
      · subst one
        decide
      · by_cases two : value = 2
        · subst two
          decide
        · simp [one, two]

theorem fromStr_opus : AudioCodec.fromStr AudioCodec.opus.toString = .ok .opus := by
  rw [AudioCodec.fromStr, AudioCodec.toString, String.toList_ofList]
  rfl

/-- An AAC codec is read back with the object type that its number stands for. -/
theorem fromStr_aac (objectType : AudioObjectType) :
    AudioCodec.fromStr (AudioCodec.aac objectType).toString =
      .ok (.aac (.fromU16 objectType.asU16)) := by
  obtain ⟨shown, whole⟩ : ∃ shown, shown = formatted 10 1 objectType.asU16.toNat := ⟨_, rfl⟩
  have dotless : '.' ∉ shown := by
    rw [whole]
    exact dot_notMem_decimal _ _
  have split : (AudioCodec.aac objectType).toString.toList.splitOn '.' =
      ["mp4a".toList, "40".toList, shown] := by
    rw [AudioCodec.toString, String.toList_ofList]
    change (formatAac objectType).splitOn '.' = _
    refine splitOn_joined ?_ ?_ (List.cons_ne_nil _ _)
    · unfold formatAac
      simp only [List.intercalate_cons_cons, List.intercalate_singleton, List.append_assoc, whole]
    · simp only [List.forall_mem_cons, dotless, not_false_eq_true, List.not_mem_nil, false_imp_iff,
        implies_true, and_true]
      decide
  have read := number_formatted (show 1 < 10 by decide) (by decide) objectType.asU16.toNat_lt
    "object type" shown 1
  rw [← whole] at read
  rw [AudioCodec.fromStr, split]
  change parseMp4a ["mp4a".toList, "40".toList, shown] = _
  rw [parseMp4a, if_neg (show ¬["mp4a".toList, "40".toList, shown].length < 3 from Nat.lt_irrefl 3),
    show part ["mp4a".toList, "40".toList, shown] 2 = .ok shown from rfl, ok_bind, read, ok_bind,
    UInt16.ofNat_toNat]
  rfl

theorem fromStr_video_iff (codec : VideoCodec) :
    VideoCodec.fromStr codec.toString = .ok codec ↔
      ∃ profile constraintSet level, codec = .avc profile constraintSet level := by
  cases codec with
  | avc profile constraintSet level =>
      exact ⟨fun _ => ⟨profile, constraintSet, level, rfl⟩, fun _ => fromStr_avc _ _ _⟩
  | hevc generalProfileSpace profileCompatibility profile level tier constraintIndicator =>
      rw [fromStr_hevc]
      constructor
      · intro read
        cases read
      · rintro ⟨_, _, _, same⟩
        cases same
  | av1 profile level tier depth monochrome subSamplingX subSamplingY colorPrimaries
      transferCharacteristics matrixCoefficients fullRangeFlag =>
      rw [fromStr_av1]
      constructor
      · intro read
        cases read
      · rintro ⟨_, _, _, same⟩
        cases same

theorem fromStr_audio_iff (codec : AudioCodec) :
    AudioCodec.fromStr codec.toString = .ok codec ↔
      codec ≠ .aac (.unknown 1) ∧ codec ≠ .aac (.unknown 2) := by
  cases codec with
  | opus => exact ⟨fun _ => by decide, fun _ => fromStr_opus⟩
  | aac objectType =>
      have same := objectType.fromU16_asU16
      rw [fromStr_aac, Except.ok.injEq, AudioCodec.aac.injEq, same, ne_eq, ne_eq, ne_eq, ne_eq,
        AudioCodec.aac.injEq, AudioCodec.aac.injEq]

/-- Which codecs are read back as they were written: of the video codecs AVC, and of the audio codecs
all whose object type is not an unknown one with the number of a known one. -/
theorem codecs_read_back_iff (video : VideoCodec) (audio : AudioCodec) :
    (VideoCodec.fromStr video.toString = .ok video ↔
      ∃ profile constraintSet level, video = .avc profile constraintSet level) ∧
    (AudioCodec.fromStr audio.toString = .ok audio ↔
      audio ≠ .aac (.unknown 1) ∧ audio ≠ .aac (.unknown 2)) :=
  ⟨fromStr_video_iff video, fromStr_audio_iff audio⟩

theorem hevc_string_refused :
    (VideoCodec.hevc 0 0x40 1 0x99 false 0x90).toString = "hev1.1.40.L99.90" ∧
      VideoCodec.fromStr (VideoCodec.hevc 0 0x40 1 0x99 false 0x90).toString ≠
        .ok (.hevc 0 0x40 1 0x99 false 0x90) := by
  refine ⟨by decide +kernel, ?_⟩
  rw [fromStr_hevc]
  intro read
  cases read

end ScuffleVideo.Mp4
