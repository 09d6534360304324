import Mathlib.Algebra.Order.Floor.Ring
import Mathlib.Data.Rat.Floor
import ScuffleVideo.Transmuxer.MediaSegments

/-!
# Composition offsets in exact arithmetic

The transmuxer computes durations and composition offsets with frame rates.  Here the numbers
it computes with are a parameter: with double precision numbers it is the transmuxer of the
source, and with rational ones nothing is rounded but where the source rounds.

A composition time reaches a segment on two ways.  The packet of an AVC unit has it as an
unsigned number, and the packet of an HEVC unit as a signed one.
-/

namespace ScuffleVideo.Transmux

open Wire Wire.Reader Flv Mp4

/-- The numbers that frame rates are. -/
class FrameNumber (ν : Type) extends Sub ν, Mul ν, Div ν, LE ν, OfScientific ν where
  ofUInt32 : UInt32 → ν
  ofInt32 : Int32 → ν
  floor : ν → ν
  abs : ν → ν
  /-- Casts saturate. -/
  toUInt32 : ν → UInt32
  toInt32 : ν → Int32

instance : FrameNumber Float where
  ofUInt32 := UInt32.toFloat
  ofInt32 := Int32.toFloat
  floor := Float.floor
  abs := Float.abs
  toUInt32 := Float.toUInt32
  toInt32 := Float.toInt32

/-- A rational number without its fraction. -/
def truncated (number : ℚ) : Int := number.num.tdiv number.den

instance : FrameNumber ℚ where
  ofUInt32 number := number.toNat
  ofInt32 number := number.toInt
  floor number := number.floor
  abs number := |number|
  toUInt32 number := UInt32.ofNat (min (truncated number).toNat (2 ^ 32 - 1))
  toInt32 number := Int32.ofInt (max (-2 ^ 31) (min (truncated number) (2 ^ 31 - 1)))

variable {env : Environment} {ν : Type} [FrameNumber ν] [DecidableLE ν]

def frameDurationOver (framerate : ν) (lastVideoTimestamp timestampMs : UInt32) : UInt32 :=
  if lastVideoTimestamp = 0 ∨ timestampMs = 0 ∨ timestampMs < lastVideoTimestamp then 1000
  else
    let delta := FrameNumber.ofUInt32 timestampMs - (FrameNumber.ofUInt32 lastVideoTimestamp : ν)
    let expectedDelta := 1000.0 / framerate
    if FrameNumber.abs (delta - expectedDelta) ≤ 1.0 then 1000
    else FrameNumber.toUInt32 (delta * framerate)

def compositionTicksOver (framerate milliseconds : ν) : ν :=
  FrameNumber.floor (milliseconds * framerate / 1000.0) * 1000.0

def sampleOver (framerate : ν) (lastVideoTimestamp : UInt32) (tag : FlvTag env.toCodecs) :
    Option Sample :=
  let duration := frameDurationOver framerate lastVideoTimestamp tag.timestampMs
  match tag.data with
  | .audio ⟨_, _, _, .aac (.raw data)⟩ =>
      let (sample, duration) := Codecs.Aac.trunSample data
      some ⟨data, duration, sample, true, false⟩
  | .video ⟨frameType, .avc (.nalu compositionTime data)⟩ =>
      let compositionTime :=
        compositionTicksOver framerate (FrameNumber.ofUInt32 compositionTime)
      let sample := Codecs.Avc.trunSample frameType (FrameNumber.toUInt32 compositionTime)
        duration data
      some ⟨data, duration, sample, false, frameType == .keyframe⟩
  | .video ⟨frameType, .enhanced (.av1 (.raw data))⟩ =>
      let sample := Codecs.Av1.trunSample frameType duration data
      some ⟨data, duration, sample, false, frameType == .keyframe⟩
  | .video ⟨frameType, .enhanced (.hevc (.nalu compositionTime data))⟩ =>
      let compositionTime :=
        compositionTicksOver framerate (FrameNumber.ofInt32 (compositionTime.getD 0))
      let sample := Codecs.Hevc.trunSample frameType (FrameNumber.toInt32 compositionTime)
        duration data
      some ⟨data, duration, sample, false, frameType == .keyframe⟩
  | _ => none

namespace Transmuxer

def muxTagsOver (framerate : ν) (transmuxer : Transmuxer env) :
    List (FlvTag env.toCodecs) →
      Except TransmuxError (Option (TransmuxResult env)) × Transmuxer env
  | [] => (.ok none, { transmuxer with tags := [] })
  | tag :: tags =>
      match sampleOver framerate transmuxer.lastVideoTimestamp tag with
      | some sample => writeSegment { transmuxer with tags := tags } tag.timestampMs sample
      | none => muxTagsOver framerate transmuxer tags

/-- `rate` is the frame rate of the settings among the numbers. -/
def muxOver (rate : VideoSettings env.VideoCodec → ν) (transmuxer : Transmuxer env) :
    Except TransmuxError (Option (TransmuxResult env)) × Transmuxer env :=
  match transmuxer.settings with
  | none => transmuxer.mux
  | some (videoSettings, _) => muxTagsOver (rate videoSettings) transmuxer transmuxer.tags

end Transmuxer

/-! ## The transmuxer of the source -/

theorem sampleOver_float (framerate : Float) (lastVideoTimestamp : UInt32)
    (tag : FlvTag env.toCodecs) :
    sampleOver framerate lastVideoTimestamp tag = sampleOf framerate lastVideoTimestamp tag := rfl

theorem Transmuxer.muxTagsOver_float (framerate : Float) (transmuxer : Transmuxer env)
    (tags : List (FlvTag env.toCodecs)) :
    transmuxer.muxTagsOver framerate tags = transmuxer.muxTags framerate tags := by
  induction tags with
  | nil => rfl
  | cons tag tags ih =>
      rw [muxTagsOver, muxTags, sampleOver_float]
      cases sampleOf framerate transmuxer.lastVideoTimestamp tag with
      | none => exact ih
      | some sample => rfl

/-- With double precision numbers it is the transmuxer of the source. -/
theorem Transmuxer.muxOver_float (transmuxer : Transmuxer env) :
    transmuxer.muxOver VideoSettings.framerate = transmuxer.mux := by
  unfold muxOver
  split
  · rfl
  · rename_i ready
    rw [mux_ready ready]
    exact muxTagsOver_float _ _ _

/-! ## The two packets -/

/-- A composition time as 24 bits. -/
def si24 (time : Int) : Bytes := toBytesBE 3 (time % 2 ^ 24).toNat

/-- The time is one that 24 bits hold. -/
def InField (time : Int) : Prop := -2 ^ 23 ≤ time ∧ time < 2 ^ 23

/-- The body of a tag with AVC units. -/
def avcUnits (time : Int) (payload : Bytes) : Bytes :=
  AvcPacketType.nalu.code :: (si24 time ++ payload)

/-- The body of a tag with HEVC units. -/
def hevcUnits (time : Int) (payload : Bytes) : Bytes :=
  VideoFourCC.hevc.code.bytes ++ (si24 time ++ payload)

/-- The field as AVC packets have it. -/
def unsignedField (time : Int) : UInt32 := UInt32.ofNat (time % 2 ^ 24).toNat

theorem toNat_unsignedField (time : Int) : (unsignedField time).toNat = (time % 2 ^ 24).toNat :=
  UInt32.toNat_ofNat_of_lt' (show (time % 2 ^ 24).toNat < 2 ^ 32 by omega)

theorem readU24_si24 (time : Int) :
    Reads (readU24 : Reader IoFault UInt32) (si24 time) (unsignedField time) := by
  have small : (unsignedField time).toNat < 2 ^ 24 := by
    rw [toNat_unsignedField]
    omega
  have field := Reads.readU24 (ε := IoFault) small
  rwa [toNat_unsignedField] at field

/-- A shift up and an arithmetic shift down extend the sign. -/
theorem extended_unsignedField {time : Int} (field : InField time) :
    (unsignedField time <<< 8).toInt32 >>> 8 = Int32.ofInt time := by
  obtain ⟨low, high⟩ := field
  have shifted : (unsignedField time <<< 8).toNat = (time % 2 ^ 24).toNat * 256 := by
    have places : (8 : UInt32).toNat % 32 = 8 := by decide
    rw [UInt32.toNat_shiftLeft, toNat_unsignedField, places, Nat.shiftLeft_eq]
    omega
  have signed : (unsignedField time <<< 8).toInt32.toInt = time * 256 := by
    rw [← Int32.toInt_toBitVec, UInt32.toBitVec_toInt32, BitVec.toInt_eq_toNat_bmod,
      UInt32.toNat_toBitVec, shifted, Int.bmod_def]
    split <;> omega
  rw [← Int32.toInt_inj, Int32.toInt_ofInt_of_le (by omega) (by omega)]
  have places : ((8 : Int32).toBitVec.smod 32).toNat = 8 := by decide
  rw [← Int32.toInt_toBitVec, Int32.toBitVec_shiftRight, BitVec.toInt_sshiftRight', places,
    Int32.toInt_toBitVec, signed, Int.shiftRight_eq_div_pow]
  omega

theorem readI24_si24 {time : Int} (field : InField time) :
    Reads readI24 (si24 time) (Int32.ofInt time) := by
  have read := (readU24_si24 time).map fun number => (number <<< 8).toInt32 >>> 8
  rwa [extended_unsignedField field] at read

variable (codecs : Codecs)

theorem demux_avcUnits (time : Int) (payload : Bytes) :
    (VideoTagBody.demux codecs (.codecId .avc)).parse (avcUnits time payload) =
      .ok (.avc (.nalu (unsignedField time) payload)) := by
  have units : ReadsLast (AvcPacket.demux codecs) (avcUnits time payload)
      (.nalu (unsignedField time) payload) := by
    refine (Reads.readU8 AvcPacketType.nalu.code).bindLast ?_
    refine (readU24_si24 time).bindLast ?_
    exact (ReadsLast.extractRemaining payload).map fun data =>
      AvcPacket.nalu (unsignedField time) data
  exact (units.map VideoTagBody.avc).parse

theorem demux_hevcUnits {time : Int} (field : InField time) (payload : Bytes) :
    (VideoTagBody.demux codecs (.enhanced .codedFrames)).parse (hevcUnits time payload) =
      .ok (.enhanced (.hevc (.nalu (some (Int32.ofInt time)) payload))) := by
  have units : ReadsLast (EnhancedPacket.demux codecs .codedFrames) (hevcUnits time payload)
      (.hevc (.nalu (some (Int32.ofInt time)) payload)) := by
    refine (Reads.readFourCC VideoFourCC.hevc.code).bindLast ?_
    refine (readI24_si24 field).bindLast ?_
    exact (ReadsLast.extractRemaining payload).map fun data =>
      EnhancedPacket.hevc (.nalu (some (Int32.ofInt time)) data)
  exact (units.map VideoTagBody.enhanced).parse

/-! ## The offset of a segment -/

/-- The composition offset that a player reads from the fragment in front. -/
def carriedOffset (checks : OverflowChecks) (segment : MediaSegment) : Option Int :=
  match (DynBox.demux checks).parse segment.data with
  | .ok (.moof moof) =>
      match moof.traf.map Traf.effectiveSamples with
      | [[sample]] => some sample.compositionTimeOffset.toInt
      | _ => none
  | _ => none

namespace Transmuxer

variable {transmuxer : Transmuxer env} {videoSettings : VideoSettings env.VideoCodec}
  {audioSettings : AudioSettings env.AudioCodec} {tag : FlvTag env.toCodecs} {sample : Sample}

/-- The segment of a tag at the front of the queue carries the offset of its sample. -/
theorem muxOver_carries (checks : OverflowChecks) (rate : VideoSettings env.VideoCodec → ν)
    (ready : transmuxer.settings = some (videoSettings, audioSettings))
    (rest : List (FlvTag env.toCodecs))
    (found : sampleOver (rate videoSettings) transmuxer.lastVideoTimestamp tag = some sample)
    (sound : sample.Sound) {offset : Int64}
    (offsetIs : sample.trunSample.compositionTimeOffset = some offset) :
    ∃ segment next,
      muxOver rate { transmuxer with tags := tag :: rest } =
        (.ok (some (.mediaSegment segment)), next) ∧
      carriedOffset checks segment = some offset.toInt := by
  obtain ⟨fragment, describes⟩ := transmuxer.counters.exists_fragment sound
  have taken := writeSegment_taken sound describes rest tag.timestampMs
  have muxed : muxOver rate { transmuxer with tags := tag :: rest } =
      writeSegment { transmuxer with tags := rest } tag.timestampMs sample := by
    unfold muxOver
    simp only [ready]
    rw [muxTagsOver, found]
  refine ⟨_, _, muxed.trans taken, ?_⟩
  have parsed : (DynBox.demux checks).parse (transmuxer.counters.segment sample fragment).data =
      .ok (.moof (fragment.moof fragment.filledOffset)) :=
    (fragment.bytes_reads checks).parse_append _
  have samples : (fragment.moof fragment.filledOffset).traf.map Traf.effectiveSamples =
      [[⟨some fragment.duration, some fragment.size, some fragment.flags,
        fragment.compositionTimeOffset.getD 0⟩]] :=
    congrArg (fun samples => [samples]) (fragment.effectiveSamples_traf fragment.filledOffset)
  rw [describes.trunSample] at offsetIs
  simp only [carriedOffset, parsed, samples]
  rw [show fragment.compositionTimeOffset = some offset from offsetIs]
  rfl

end Transmuxer

/-! ## The ticks of a composition time -/

/-- A composition time in ticks: whole frames of a thousand. -/
def wholeTicks (framerate : ℚ) (time : Int) : Int := ⌊(time : ℚ) * framerate / 1000⌋ * 1000

theorem compositionTicksOver_eq (framerate : ℚ) (time : Int) :
    compositionTicksOver framerate (time : ℚ) = (wholeTicks framerate time : ℚ) := by
  have thousand : (1000.0 : ℚ) = 1000 := by norm_num
  change ((⌊(time : ℚ) * framerate / (1000.0 : ℚ)⌋ : ℚ)) * (1000.0 : ℚ) = _
  rw [thousand, wholeTicks]
  push_cast
  rfl

theorem truncated_intCast (number : Int) : truncated (number : ℚ) = number := by
  simp [truncated]

theorem toUInt32_wholeTicks (framerate : ℚ) (time : Int) :
    FrameNumber.toUInt32 (compositionTicksOver framerate (time : ℚ)) =
      UInt32.ofNat (min (wholeTicks framerate time).toNat (2 ^ 32 - 1)) := by
  rw [compositionTicksOver_eq]
  change UInt32.ofNat (min (truncated (wholeTicks framerate time : ℚ)).toNat (2 ^ 32 - 1)) = _
  rw [truncated_intCast]

theorem toInt32_wholeTicks (framerate : ℚ) {time : Int}
    (fits : -2 ^ 31 ≤ wholeTicks framerate time ∧ wholeTicks framerate time < 2 ^ 31) :
    FrameNumber.toInt32 (compositionTicksOver framerate (time : ℚ)) =
      Int32.ofInt (wholeTicks framerate time) := by
  rw [compositionTicksOver_eq]
  change Int32.ofInt
    (max (-2 ^ 31) (min (truncated (wholeTicks framerate time : ℚ)) (2 ^ 31 - 1))) = _
  rw [truncated_intCast, min_eq_left (by omega), max_eq_right (by omega)]

/-- The ticks have the sign of the time. -/
theorem wholeTicks_nonneg_iff {framerate : ℚ} (positive : 0 < framerate) (time : Int) :
    0 ≤ wholeTicks framerate time ↔ 0 ≤ time := by
  have scaled : 0 ≤ ⌊(time : ℚ) * framerate / 1000⌋ ↔ 0 ≤ time := by
    rw [Int.floor_nonneg, le_div_iff₀ (by norm_num), zero_mul,
      mul_nonneg_iff_of_pos_right positive, Int.cast_nonneg_iff]
  rw [← scaled, wholeTicks]
  omega

/-! ## Both ways -/

theorem videoSample_sound (data : Bytes) (duration : UInt32) (independent keyframe : Bool)
    {offset : Int64} (word : FromWord offset) :
    Sample.Sound ⟨data, duration, trunSample duration (some offset) independent data, false,
      keyframe⟩ := by
  refine ⟨⟨independent, some offset, rfl, ?_⟩, fun audio => by cases audio⟩
  rintro _ ⟨⟩
  exact word

namespace Transmuxer

variable {transmuxer : Transmuxer env} {videoSettings : VideoSettings env.VideoCodec}
  {audioSettings : AudioSettings env.AudioCodec}

/-- The segment of an AVC unit carries the ticks of the unsigned field. -/
theorem avc_carries (checks : OverflowChecks) (rate : VideoSettings env.VideoCodec → ℚ)
    (ready : transmuxer.settings = some (videoSettings, audioSettings))
    (timestampMs streamId : UInt32) (frameType : FrameType) (time : UInt32) (payload : Bytes)
    (rest : List (FlvTag env.toCodecs)) :
    ∃ segment next,
      muxOver rate { transmuxer with
        tags := ⟨timestampMs, streamId, .video ⟨frameType, .avc (.nalu time payload)⟩⟩ :: rest } =
        (.ok (some (.mediaSegment segment)), next) ∧
      carriedOffset checks segment =
        some ((min (wholeTicks (rate videoSettings) time.toNat).toNat (2 ^ 32 - 1) : Nat) : Int) := by
  obtain ⟨segment, next, muxed, carried⟩ := muxOver_carries checks rate ready rest
    (show sampleOver (rate videoSettings) transmuxer.lastVideoTimestamp
      ⟨timestampMs, streamId, .video ⟨frameType, .avc (.nalu time payload)⟩⟩ = some _ from rfl)
    (videoSample_sound _ _ _ _ (.inl ⟨_, rfl⟩)) rfl
  refine ⟨segment, next, muxed, carried.trans ?_⟩
  have number : (FrameNumber.ofUInt32 time : ℚ) = ((time.toNat : Int) : ℚ) :=
    (Int.cast_natCast _).symm
  rw [toInt_unsigned, number, toUInt32_wholeTicks,
    UInt32.toNat_ofNat_of_lt' (show _ < 2 ^ 32 by omega)]

/-- The segment of an HEVC unit carries the ticks of the signed field. -/
theorem hevc_carries (checks : OverflowChecks) (rate : VideoSettings env.VideoCodec → ℚ)
    (ready : transmuxer.settings = some (videoSettings, audioSettings))
    (timestampMs streamId : UInt32) (frameType : FrameType) {time : Int} (field : InField time)
    (fits : -2 ^ 31 ≤ wholeTicks (rate videoSettings) time ∧
      wholeTicks (rate videoSettings) time < 2 ^ 31)
    (payload : Bytes) (rest : List (FlvTag env.toCodecs)) :
    ∃ segment next,
      muxOver rate { transmuxer with
        tags := ⟨timestampMs, streamId, .video ⟨frameType,
          .enhanced (.hevc (.nalu (some (Int32.ofInt time)) payload))⟩⟩ :: rest } =
        (.ok (some (.mediaSegment segment)), next) ∧
      carriedOffset checks segment = some (wholeTicks (rate videoSettings) time) := by
  obtain ⟨segment, next, muxed, carried⟩ := muxOver_carries checks rate ready rest
    (show sampleOver (rate videoSettings) transmuxer.lastVideoTimestamp
      ⟨timestampMs, streamId, .video ⟨frameType,
        .enhanced (.hevc (.nalu (some (Int32.ofInt time)) payload))⟩⟩ = some _ from rfl)
    (videoSample_sound _ _ _ _ (.inr ⟨_, rfl⟩)) rfl
  refine ⟨segment, next, muxed, carried.trans ?_⟩
  have number : (FrameNumber.ofInt32 ((some (Int32.ofInt time)).getD 0) : ℚ) = (time : ℚ) := by
    change ((Int32.ofInt time).toInt : ℚ) = _
    rw [Int32.toInt_ofInt_of_le (by have := field.1; omega) (by have := field.2; omega)]
  rw [number, toInt32_wholeTicks _ fits, Int32.toInt_toInt64,
    Int32.toInt_ofInt_of_le fits.1 fits.2]

/-- A composition time of 24 bits in an AVC packet and in an HEVC packet, demuxed and then muxed
from the same state: both segments carry its ticks exactly when it is not negative. -/
theorem offsets_agree_iff (checks : OverflowChecks) (rate : VideoSettings env.VideoCodec → ℚ)
    (ready : transmuxer.settings = some (videoSettings, audioSettings))
    (positive : 0 < rate videoSettings) {time : Int} (field : InField time)
    (fits : -2 ^ 31 ≤ wholeTicks (rate videoSettings) time ∧
      wholeTicks (rate videoSettings) time < 2 ^ 31)
    (timestampMs streamId : UInt32) (frameType : FrameType) (payload : Bytes)
    (rest : List (FlvTag env.toCodecs)) :
    ∃ avc hevc avcSegment avcNext hevcSegment hevcNext,
      (VideoTagBody.demux env.toCodecs (.codecId .avc)).parse (avcUnits time payload) = .ok avc ∧
      (VideoTagBody.demux env.toCodecs (.enhanced .codedFrames)).parse (hevcUnits time payload) =
        .ok hevc ∧
      muxOver rate { transmuxer with
        tags := ⟨timestampMs, streamId, .video ⟨frameType, avc⟩⟩ :: rest } =
          (.ok (some (.mediaSegment avcSegment)), avcNext) ∧
      muxOver rate { transmuxer with
        tags := ⟨timestampMs, streamId, .video ⟨frameType, hevc⟩⟩ :: rest } =
          (.ok (some (.mediaSegment hevcSegment)), hevcNext) ∧
      ((carriedOffset checks avcSegment = some (wholeTicks (rate videoSettings) time) ∧
        carriedOffset checks hevcSegment = some (wholeTicks (rate videoSettings) time)) ↔
          0 ≤ time) := by
  obtain ⟨avcSegment, avcNext, avcMuxed, avcCarried⟩ := avc_carries checks rate ready timestampMs
    streamId frameType (unsignedField time) payload rest
  obtain ⟨hevcSegment, hevcNext, hevcMuxed, hevcCarried⟩ := hevc_carries checks rate ready
    timestampMs streamId frameType field fits payload rest
  refine ⟨_, _, avcSegment, avcNext, hevcSegment, hevcNext, demux_avcUnits _ time payload,
    demux_hevcUnits _ field payload, avcMuxed, hevcMuxed, ?_⟩
  have sign := wholeTicks_nonneg_iff positive time
  rw [avcCarried, hevcCarried, and_iff_left rfl, Option.some.injEq]
  constructor
  · intro same
    rw [← sign, ← same]
    exact Int.natCast_nonneg _
  · intro nonneg
    have below := field.2
    have value : ((unsignedField time).toNat : Int) = time := by
      rw [toNat_unsignedField]
      omega
    have ticks := sign.mpr nonneg
    rw [value]
    omega

end Transmuxer

/-- A time of 40 milliseconds at 25 frames in a second. -/
theorem oneFrame_agrees :
    ∃ avc hevc avcSegment avcNext hevcSegment hevcNext,
      (VideoTagBody.demux plainEnvironment.toCodecs (.codecId .avc)).parse (avcUnits 40 [1, 2]) =
        .ok avc ∧
      (VideoTagBody.demux plainEnvironment.toCodecs (.enhanced .codedFrames)).parse
        (hevcUnits 40 [1, 2]) = .ok hevc ∧
      Transmuxer.muxOver (fun _ => (25 : ℚ)) { readyTransmuxer with
        tags := [⟨66, 0, .video ⟨.keyframe, avc⟩⟩] } =
          (.ok (some (.mediaSegment avcSegment)), avcNext) ∧
      Transmuxer.muxOver (fun _ => (25 : ℚ)) { readyTransmuxer with
        tags := [⟨66, 0, .video ⟨.keyframe, hevc⟩⟩] } =
          (.ok (some (.mediaSegment hevcSegment)), hevcNext) ∧
      carriedOffset .on avcSegment = some 1000 ∧ carriedOffset .on hevcSegment = some 1000 := by
  have ticks : wholeTicks 25 40 = 1000 := by norm_num [wholeTicks]
  obtain ⟨avc, hevc, avcSegment, avcNext, hevcSegment, hevcNext, avcRead, hevcRead, avcMuxed,
    hevcMuxed, agree⟩ := Transmuxer.offsets_agree_iff .on (fun _ => (25 : ℚ))
      (show readyTransmuxer.settings = some _ from rfl) (by norm_num)
      (show InField 40 from ⟨by decide, by decide⟩) (by rw [ticks]; decide) 66 0 .keyframe [1, 2] []
  rw [ticks] at agree
  exact ⟨avc, hevc, avcSegment, avcNext, hevcSegment, hevcNext, avcRead, hevcRead, avcMuxed,
    hevcMuxed, agree.mpr (by decide)⟩

/-- A time of -1 millisecond at 30 frames in a second: one segment is a frame early, the other
is hours late. -/
theorem negative_time_late :
    ∃ avc hevc avcSegment avcNext hevcSegment hevcNext,
      (VideoTagBody.demux plainEnvironment.toCodecs (.codecId .avc)).parse (avcUnits (-1) [1, 2]) =
        .ok avc ∧
      (VideoTagBody.demux plainEnvironment.toCodecs (.enhanced .codedFrames)).parse
        (hevcUnits (-1) [1, 2]) = .ok hevc ∧
      Transmuxer.muxOver (fun _ => (30 : ℚ)) { readyTransmuxer with
        tags := [⟨66, 0, .video ⟨.keyframe, avc⟩⟩] } =
          (.ok (some (.mediaSegment avcSegment)), avcNext) ∧
      Transmuxer.muxOver (fun _ => (30 : ℚ)) { readyTransmuxer with
        tags := [⟨66, 0, .video ⟨.keyframe, hevc⟩⟩] } =
          (.ok (some (.mediaSegment hevcSegment)), hevcNext) ∧
      wholeTicks 30 (-1) = -1000 ∧ carriedOffset .on hevcSegment = some (-1000) ∧
      carriedOffset .on avcSegment = some 503316000 := by
  have ticks : wholeTicks 30 (-1) = -1000 := by norm_num [wholeTicks]
  have late : wholeTicks 30 ((unsignedField (-1)).toNat) = 503316000 := by
    rw [toNat_unsignedField]
    norm_num [wholeTicks]
  have field : InField (-1) := ⟨by decide, by decide⟩
  obtain ⟨avcSegment, avcNext, avcMuxed, avcCarried⟩ := Transmuxer.avc_carries .on
    (fun _ => (30 : ℚ)) (show readyTransmuxer.settings = some _ from rfl) 66 0 .keyframe
      (unsignedField (-1)) [1, 2] []
  obtain ⟨hevcSegment, hevcNext, hevcMuxed, hevcCarried⟩ := Transmuxer.hevc_carries .on
    (fun _ => (30 : ℚ)) (show readyTransmuxer.settings = some _ from rfl) 66 0 .keyframe
      field (by rw [ticks]; decide) [1, 2] []
  rw [late] at avcCarried
  rw [ticks] at hevcCarried
  exact ⟨_, _, avcSegment, avcNext, hevcSegment, hevcNext, demux_avcUnits _ (-1) [1, 2],
    demux_hevcUnits _ field [1, 2], avcMuxed, hevcMuxed, ticks, hevcCarried,
    avcCarried⟩

end ScuffleVideo.Transmux
