import ScuffleVideo.Amf0.Define

/-!
# FLV tags

A tag is a type, a 24-bit size, a timestamp whose high byte comes last, a stream
id and a body.  Bodies are read as audio, video or script data; anything else is
kept as it is.  The decoder configuration records and the script values inside
the bodies belong to other crates and are taken through `Codecs`.
-/

namespace ScuffleVideo

namespace Flv

open Wire Wire.Reader

/-- What the codec crates provide: their record types, the readers of those
records and the script data decoder. -/
structure Codecs where
  AvcConfig : Type
  HevcConfig : Type
  Av1Config : Type
  readAvcConfig : Reader IoFault AvcConfig
  readHevcConfig : Reader IoFault HevcConfig
  readAv1Config : Reader IoFault Av1Config
  decodeScript : Bytes → Except IoFault (String × List Amf0.Amf0Value)

variable (codecs : Codecs)

/-! ## Audio -/

structure SoundFormat where
  code : UInt8
  deriving DecidableEq, Repr

def SoundFormat.aac : SoundFormat := ⟨10⟩

structure SoundRate where
  code : UInt8
  deriving DecidableEq, Repr

structure SoundSize where
  code : UInt8
  deriving DecidableEq, Repr

structure SoundType where
  code : UInt8
  deriving DecidableEq, Repr

structure AacPacketType where
  code : UInt8
  deriving DecidableEq, Repr

def AacPacketType.sequenceHeader : AacPacketType := ⟨0x0⟩

def AacPacketType.raw : AacPacketType := ⟨0x1⟩

inductive AacPacket where
  | sequenceHeader (data : Bytes)
  | raw (data : Bytes)
  | unknown (aacPacketType : AacPacketType) (data : Bytes)
  deriving DecidableEq, Repr

def AacPacket.new (aacPacketType : AacPacketType) (data : Bytes) : AacPacket :=
  if aacPacketType = .raw then .raw data
  else if aacPacketType = .sequenceHeader then .sequenceHeader data
  else .unknown aacPacketType data

inductive AudioDataBody where
  | aac (packet : AacPacket)
  | unknown (soundFormat : SoundFormat) (data : Bytes)
  deriving DecidableEq, Repr

def AudioDataBody.demux (soundFormat : SoundFormat) : Reader IoFault AudioDataBody :=
  if soundFormat = .aac then do
    let aacPacketType : AacPacketType := ⟨← readU8⟩
    return .aac (.new aacPacketType (← extractRemaining))
  else do
    return .unknown soundFormat (← extractRemaining)

structure AudioData where
  soundRate : SoundRate
  soundSize : SoundSize
  soundType : SoundType
  body : AudioDataBody
  deriving DecidableEq, Repr

def AudioData.demux : Reader IoFault AudioData := do
  let byte ← readU8
  let body ← AudioDataBody.demux ⟨byte >>> 4⟩
  return ⟨⟨(byte >>> 2) &&& 0b11⟩, ⟨(byte >>> 1) &&& 0b1⟩, ⟨byte &&& 0b1⟩, body⟩

/-! ## Video -/

structure FrameType where
  code : UInt8
  deriving DecidableEq, Repr

def FrameType.keyframe : FrameType := ⟨1⟩

def FrameType.videoInfoOrCommandFrame : FrameType := ⟨5⟩

structure VideoCodecId where
  code : UInt8
  deriving DecidableEq, Repr

def VideoCodecId.avc : VideoCodecId := ⟨7⟩

structure CommandPacket where
  code : UInt8
  deriving DecidableEq, Repr

structure AvcPacketType where
  code : UInt8
  deriving DecidableEq, Repr

def AvcPacketType.seqHdr : AvcPacketType := ⟨0⟩

def AvcPacketType.nalu : AvcPacketType := ⟨1⟩

def AvcPacketType.endOfSequence : AvcPacketType := ⟨2⟩

inductive AvcPacket where
  | nalu (compositionTime : UInt32) (data : Bytes)
  | sequenceHeader (config : codecs.AvcConfig)
  | endOfSequence
  | unknown (avcPacketType : AvcPacketType) (compositionTime : UInt32) (data : Bytes)

def AvcPacket.demux : Reader IoFault (AvcPacket codecs) := do
  let avcPacketType : AvcPacketType := ⟨← readU8⟩
  let compositionTime ← readU24
  if avcPacketType = .seqHdr then
    return .sequenceHeader (← codecs.readAvcConfig)
  else if avcPacketType = .nalu then
    return .nalu compositionTime (← extractRemaining)
  else if avcPacketType = .endOfSequence then
    return .endOfSequence
  else
    return .unknown avcPacketType compositionTime (← extractRemaining)

inductive Av1Packet where
  | sequenceStart (config : codecs.Av1Config)
  | raw (data : Bytes)

inductive HevcPacket where
  | sequenceStart (config : codecs.HevcConfig)
  | nalu (compositionTime : Option Int32) (data : Bytes)

structure VideoFourCC where
  code : FourCC
  deriving DecidableEq, Repr

def VideoFourCC.av1 : VideoFourCC := ⟨.ofChars 'a' 'v' '0' '1'⟩

def VideoFourCC.hevc : VideoFourCC := ⟨.ofChars 'h' 'v' 'c' '1'⟩

structure EnhancedPacketType where
  code : UInt8
  deriving DecidableEq, Repr

namespace EnhancedPacketType

def sequenceStart : EnhancedPacketType := ⟨0⟩
def codedFrames : EnhancedPacketType := ⟨1⟩
def sequenceEnd : EnhancedPacketType := ⟨2⟩
def codedFramesX : EnhancedPacketType := ⟨3⟩
def metadata : EnhancedPacketType := ⟨4⟩
def mpeg2SequenceStart : EnhancedPacketType := ⟨5⟩

end EnhancedPacketType

inductive EnhancedPacket where
  | metadata (videoCodec : VideoFourCC) (data : Bytes)
  | sequenceEnd (videoCodec : VideoFourCC)
  | av1 (packet : Av1Packet codecs)
  | hevc (packet : HevcPacket codecs)
  | unknown (packetType : EnhancedPacketType) (videoCodec : VideoFourCC) (data : Bytes)

inductive VideoTagBody where
  | avc (packet : AvcPacket codecs)
  | enhanced (packet : EnhancedPacket codecs)
  | command (packet : CommandPacket)
  | unknown (codecId : VideoCodecId) (data : Bytes)

/-- A 24-bit two's complement number. -/
def readI24 : Reader IoFault Int32 := do
  return ((← readU24) <<< 8).toInt32 >>> 8

/-- The AV1 configuration record behind its transport stream descriptor. -/
def readAv1VideoDescriptor : Reader IoFault codecs.Av1Config := do
  let tag ← readU8
  if tag ≠ 0x80 then
    fail (.invalidData "Invalid AV1 video descriptor tag")
  else do
    let length ← readU8
    if length ≠ 4 then
      fail (.invalidData "Invalid AV1 video descriptor length")
    else
      codecs.readAv1Config

def EnhancedPacket.demux (packetType : EnhancedPacketType) :
    Reader IoFault (EnhancedPacket codecs) := do
  let videoCodec : VideoFourCC := ⟨← readFourCC⟩
  if packetType = .sequenceEnd then
    return .sequenceEnd videoCodec
  else if packetType = .metadata then
    return .metadata videoCodec (← extractRemaining)
  else if videoCodec = .av1 ∧ packetType = .sequenceStart then
    return .av1 (.sequenceStart (← codecs.readAv1Config))
  else if videoCodec = .av1 ∧ packetType = .mpeg2SequenceStart then
    return .av1 (.sequenceStart (← readAv1VideoDescriptor codecs))
  else if videoCodec = .av1 ∧ packetType = .codedFrames then
    return .av1 (.raw (← extractRemaining))
  else if videoCodec = .hevc ∧ packetType = .sequenceStart then
    return .hevc (.sequenceStart (← codecs.readHevcConfig))
  else if videoCodec = .hevc ∧ packetType = .codedFrames then
    return .hevc (.nalu (some (← readI24)) (← extractRemaining))
  else if videoCodec = .hevc ∧ packetType = .codedFramesX then
    return .hevc (.nalu none (← extractRemaining))
  else
    return .unknown packetType videoCodec (← extractRemaining)

inductive VideoPacketType where
  | codecId (codecId : VideoCodecId)
  | enhanced (packetType : EnhancedPacketType)

def VideoPacketType.new (byte : UInt8) (enhanced : Bool) : VideoPacketType :=
  if enhanced then .enhanced ⟨byte⟩ else .codecId ⟨byte⟩

def VideoTagBody.demux : VideoPacketType → Reader IoFault (VideoTagBody codecs)
  | .codecId codecId =>
      if codecId = .avc then do return .avc (← AvcPacket.demux codecs)
      else do return .unknown codecId (← extractRemaining)
  | .enhanced packetType => do return .enhanced (← EnhancedPacket.demux codecs packetType)

structure VideoTagHeader where
  frameType : FrameType
  body : VideoTagBody codecs

def VideoTagHeader.demux : Reader IoFault (VideoTagHeader codecs) := do
  let byte ← readU8
  let enhanced := byte &&& 0b10000000 != 0
  let frameType : FrameType := ⟨(byte >>> 4) &&& 0b0111⟩
  if frameType = .videoInfoOrCommandFrame then
    return ⟨frameType, .command ⟨← readU8⟩⟩
  else
    return ⟨frameType, ← VideoTagBody.demux codecs (.new (byte &&& 0b00001111) enhanced)⟩

/-! ## Tags -/

structure ScriptData where
  name : String
  data : List Amf0.Amf0Value

def ScriptData.demux : Reader IoFault ScriptData := do
  let (name, data) ← ofExcept (codecs.decodeScript (← extractRemaining))
  return ⟨name, data⟩

structure FlvTagType where
  code : UInt8
  deriving DecidableEq, Repr

def FlvTagType.audio : FlvTagType := ⟨8⟩

def FlvTagType.video : FlvTagType := ⟨9⟩

def FlvTagType.scriptData : FlvTagType := ⟨18⟩

inductive FlvTagData where
  | audio (data : AudioData)
  | video (header : VideoTagHeader codecs)
  | scriptData (data : ScriptData)
  | unknown (tagType : FlvTagType) (data : Bytes)

def FlvTagData.demux (tagType : FlvTagType) : Reader IoFault (FlvTagData codecs) :=
  if tagType = .audio then do return .audio (← AudioData.demux)
  else if tagType = .video then do return .video (← VideoTagHeader.demux codecs)
  else if tagType = .scriptData then do return .scriptData (← ScriptData.demux codecs)
  else do return .unknown tagType (← extractRemaining)

structure FlvTag where
  timestampMs : UInt32
  streamId : UInt32
  data : FlvTagData codecs

def FlvTag.demux : Reader IoFault (FlvTag codecs) := do
  let tagType : FlvTagType := ⟨← readU8⟩
  let dataSize ← readU24
  let timestampLow ← readU24
  let timestampHigh ← readU8
  let streamId ← readU24
  let body ← extractBytes dataSize.toNat
  let data ← ofExcept ((FlvTagData.demux codecs tagType).parse body)
  return ⟨timestampLow ||| timestampHigh.toUInt32 <<< 24, streamId, data⟩

/-- A tag is never shorter than its header. -/
theorem FlvTag.demux_consumes : Consumes 11 (FlvTag.demux codecs) := by
  have consumed : Consumes (1 + (3 + (3 + (1 + (3 + (0 + (0 + 0))))))) (FlvTag.demux codecs) :=
    Consumes.readU8.bind fun _ => Consumes.readU24.bind fun _ => Consumes.readU24.bind fun _ =>
      Consumes.readU8.bind fun _ => Consumes.readU24.bind fun _ =>
        (Consumes.extractBytes _).bind fun _ => (Consumes.ofExcept _).bind fun _ =>
          Consumes.pure _
  exact consumed

end Flv

end ScuffleVideo
