import ScuffleVideo.Flv.Tag
import ScuffleVideo.Mp4.DynBox

/-!
# Settings, segments and samples of the transmuxer

The results that the transmuxer hands out, and the sample that each codec makes
of a packet.  Frame rates are double precision numbers, as in the source.
-/

namespace ScuffleVideo.Transmux

open Wire Flv Mp4

inductive TransmuxError where
  | invalidVideoDimensions
  | invalidVideoFrameRate
  | invalidAudioSampleRate
  | invalidAudioChannels
  | invalidAudioSampleSize
  | invalidHEVCDecoderConfigurationRecord
  | invalidAv1DecoderConfigurationRecord
  | invalidAVCDecoderConfigurationRecord
  | noSequenceHeaders
  | io (fault : IoFault)
  deriving DecidableEq, Repr

structure VideoSettings (VideoCodec : Type) where
  width : UInt32
  height : UInt32
  framerate : Float
  bitrate : UInt32
  codec : VideoCodec
  timescale : UInt32

structure AudioSettings (AudioCodec : Type) where
  sampleRate : UInt32
  channels : UInt8
  bitrate : UInt32
  codec : AudioCodec
  timescale : UInt32

inductive VideoSequenceHeader (codecs : Codecs) where
  | avc (config : codecs.AvcConfig)
  | hevc (config : codecs.HevcConfig)
  | av1 (config : codecs.Av1Config)

inductive AudioSequenceHeaderData where
  | aac (data : Bytes)

structure AudioSequenceHeader where
  soundSize : SoundSize
  soundType : SoundType
  data : AudioSequenceHeaderData

/-- The properties of the metadata object of a script tag. -/
abbrev Metadata := List (String × Amf0.Amf0Value)

/-- The crates around the transmuxer: the codecs, and the builder of the init
segment and the settings from the two sequence headers. -/
structure Environment extends Codecs where
  VideoCodec : Type
  AudioCodec : Type
  initSegment : VideoSequenceHeader toCodecs → AudioSequenceHeader → Option Metadata →
    Except TransmuxError (Bytes × VideoSettings VideoCodec × AudioSettings AudioCodec)

inductive MediaType where
  | video
  | audio
  deriving DecidableEq, Repr

structure MediaSegment where
  data : Bytes
  ty : MediaType
  keyframe : Bool
  timestamp : UInt64
  deriving DecidableEq, Repr

inductive TransmuxResult (env : Environment) where
  | initSegment (videoSettings : VideoSettings env.VideoCodec)
      (audioSettings : AudioSettings env.AudioCodec) (data : Bytes)
  | mediaSegment (segment : MediaSegment)

/-! ## Samples -/

/-- The flags of a sample, which depend only on whether it depends on others. -/
def sampleFlags (independent : Bool) : TrunSampleFlag where
  reserved := 0
  isLeading := 0
  sampleDependsOn := if independent then 2 else 1
  sampleIsDependedOn := 0
  sampleHasRedundancy := 0
  samplePaddingValue := 0
  sampleIsNonSyncSample := !independent
  sampleDegradationPriority := 0

def trunSample (duration : UInt32) (compositionTimeOffset : Option Int64) (independent : Bool)
    (data : Bytes) : TrunSample where
  duration := some duration
  size := some (UInt32.ofNat data.length)
  flags := some (sampleFlags independent)
  compositionTimeOffset := compositionTimeOffset

namespace Codecs

/-- Every AAC packet lasts 1024 ticks of the sample rate. -/
def Aac.trunSample (data : Bytes) : TrunSample × UInt32 :=
  (Transmux.trunSample 1024 none true data, 1024)

def Avc.trunSample (frameType : FrameType) (compositionTime duration : UInt32) (data : Bytes) :
    TrunSample :=
  Transmux.trunSample duration (some compositionTime.toUInt64.toInt64)
    (frameType == .keyframe) data

def Av1.trunSample (frameType : FrameType) (duration : UInt32) (data : Bytes) : TrunSample :=
  Transmux.trunSample duration none (frameType == .keyframe) data

def Hevc.trunSample (frameType : FrameType) (compositionTime : Int32) (duration : UInt32)
    (data : Bytes) : TrunSample :=
  Transmux.trunSample duration (some compositionTime.toInt64) (frameType == .keyframe) data

end Codecs

end ScuffleVideo.Transmux
