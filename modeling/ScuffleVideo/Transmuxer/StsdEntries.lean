import ScuffleVideo.Aac.Config
import ScuffleVideo.Av1.ObuHeader
import ScuffleVideo.H264.Sps
import ScuffleVideo.H265.Sps
import ScuffleVideo.Transmuxer.Define

/-!
# Sample entries of the codecs

Each codec makes the sample entry of its track from the sequence header.  The size of the picture
is cut to sixteen bits, and the record of the codec is kept as it is.
-/

namespace ScuffleVideo.Flv

def SoundType.mono : SoundType := ⟨0⟩

def SoundType.stereo : SoundType := ⟨1⟩

def SoundSize.bit8 : SoundSize := ⟨0⟩

def SoundSize.bit16 : SoundSize := ⟨1⟩

end ScuffleVideo.Flv

namespace ScuffleVideo.Transmux

open Wire Flv Mp4

/-- A failure of a crate below is passed on. -/
def liftIo {α : Type} : Except IoFault α → Except TransmuxError α
  | .ok value => .ok value
  | .error fault => .error (.io fault)

/-- The box of colours that are described. -/
def colrOf (colorPrimaries transferCharacteristics matrixCoefficients : UInt8)
    (fullRange : Bool) : Colr :=
  .new (.nclx colorPrimaries.toUInt16 transferCharacteristics.toUInt16
    matrixCoefficients.toUInt16 fullRange)

/-- The picture of a track. -/
def visualEntry (width height : UInt64) (colr : Option Colr) : SampleEntry VisualSampleEntry :=
  .new (.new width.toUInt16 height.toUInt16 colr)

namespace Codecs

def Avc.colr (color : H264.ColorConfig) : Colr :=
  colrOf color.colorPrimaries color.transferCharacteristics color.matrixCoefficients
    color.fullRange

def Avc.entry (config : H264.AVCDecoderConfigurationRecord) (sps : H264.Sps) : DynBox :=
  .avc1 (.new (visualEntry sps.width sps.height (sps.colorConfig.map Avc.colr)) (.new config) none)

/-- The entry is made from the first parameter set. -/
def Avc.stsdEntry (checks : OverflowChecks) (config : H264.AVCDecoderConfigurationRecord) :
    Except TransmuxError (DynBox × H264.Sps) :=
  match config.sps with
  | [] => .error .invalidAVCDecoderConfigurationRecord
  | data :: _ => do
      let sps ← liftIo (H264.Sps.parse checks data)
      return (Avc.entry config sps, sps)

/-- The first parameter set of the first array of them. -/
def Hevc.firstSps (config : H265.HEVCDecoderConfigurationRecord) : Option Bytes :=
  (config.arrays.find? fun array => array.nalUnitType == .sps).bind fun array => array.nalus.head?

def Hevc.colr (color : H265.ColorConfig) : Colr :=
  colrOf color.colorPrimaries color.transferCharacteristics color.matrixCoefficients
    color.fullRange

def Hevc.entry (config : H265.HEVCDecoderConfigurationRecord) (sps : H265.Sps) : DynBox :=
  .hev1 (.new (visualEntry sps.width sps.height (sps.colorConfig.map Hevc.colr)) (.new config) none)

def Hevc.stsdEntry (checks : OverflowChecks) (config : H265.HEVCDecoderConfigurationRecord) :
    Except TransmuxError (DynBox × H265.Sps) :=
  match Hevc.firstSps config with
  | none => .error .invalidHEVCDecoderConfigurationRecord
  | some data => do
      let sps ← liftIo (H265.Sps.parse checks data)
      return (Hevc.entry config sps, sps)

/-- The header of a unit and its data, which without a size is all that follows. -/
def Av1.readUnit : Reader IoFault (Av1.ObuHeader × Bytes) := do
  let header ← Av1.ObuHeader.parse
  let remaining ← Reader.remaining
  let data ← Reader.extractBytes (header.size.getD (UInt64.ofNat remaining)).toNat
  return (header, data)

def Av1.colr (color : Av1.ColorConfig) : Colr :=
  colrOf color.colorPrimaries color.transferCharacteristics color.matrixCoefficients
    color.fullColorRange

def Av1.entry (config : Av1.AV1CodecConfigurationRecord) (sequence : Av1.SequenceHeaderObu) :
    DynBox :=
  .av01 (.new (visualEntry sequence.maxFrameWidth sequence.maxFrameHeight
    (some (Av1.colr sequence.colorConfig))) (.new config) none)

def Av1.stsdEntry (checks : OverflowChecks) (config : Av1.AV1CodecConfigurationRecord) :
    Except TransmuxError (DynBox × Av1.SequenceHeaderObu) := do
  let (header, data) ← liftIo (Av1.readUnit.parse config.configObu)
  if header.obuType ≠ .sequenceHeader then .error .invalidAv1DecoderConfigurationRecord
  else do
    let sequence ← liftIo ((Av1.SequenceHeaderObu.parse checks header).parse data)
    return (Av1.entry config sequence, sequence)

def Aac.channels (soundType : SoundType) : Except TransmuxError UInt16 :=
  if soundType = .mono then .ok 1
  else if soundType = .stereo then .ok 2
  else .error .invalidAudioChannels

def Aac.sampleSize (soundSize : SoundSize) : Except TransmuxError UInt16 :=
  if soundSize = .bit8 then .ok 8
  else if soundSize = .bit16 then .ok 16
  else .error .invalidAudioSampleSize

/-- The descriptor of the stream, with the data of the sequence header in it. -/
def Aac.descriptor (data : Bytes) : EsDescriptor DynDescriptor :=
  .new 2 0 (some 0) none (some 0)
    (some (.new 0x40 0x05 0 0 (some ⟨⟨DecoderSpecificInfoDescriptor.tag⟩, data⟩))) none

def Aac.entry (channels sampleSize : UInt16) (sampleRate : UInt32) (data : Bytes) : DynBox :=
  .mp4a (.new (.new (.new channels sampleSize sampleRate)) (.new (Aac.descriptor data)) none)

def Aac.stsdEntry (soundSize : SoundSize) (soundType : SoundType) (data : Bytes) :
    Except TransmuxError (DynBox × Aac.PartialAudioSpecificConfig) := do
  let config ← liftIo (Aac.PartialAudioSpecificConfig.parse data)
  let channels ← Aac.channels soundType
  let sampleSize ← Aac.sampleSize soundSize
  return (Aac.entry channels sampleSize config.samplingFrequency data, config)

end Codecs

end ScuffleVideo.Transmux
