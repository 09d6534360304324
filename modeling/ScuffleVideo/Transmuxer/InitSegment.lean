import ScuffleVideo.Amf0.Decoder
import ScuffleVideo.Transmuxer.Mux
import ScuffleVideo.Transmuxer.StsdEntries

/-!
# The init segment

The segment that announces the tracks: the brands of the file, and one track each for the picture
and the sound, with tables that are empty because the samples come in fragments.  Both tracks are
made from the sequence headers, the frame rate from the metadata unless the parameter set has one.
-/

namespace ScuffleVideo.Transmux

open Wire Flv Mp4

/-! ## The metadata -/

/-- A property of the metadata.  The map keeps the last of several with one name. -/
def Metadata.get (metadata : Metadata) (key : String) : Option Amf0.Amf0Value :=
  (metadata.reverse.find? fun property => property.1 == key).map Prod.snd

def Metadata.number (metadata : Metadata) (key : String) : Option Float :=
  match metadata.get key with
  | some (.number bits) => some (Float.ofBits bits)
  | _ => none

/-- The frame rate and the rates of both streams, zero where they are not told. -/
structure Rates where
  framerate : Float
  videoBitrate : UInt32
  audioBitrate : UInt32

def Rates.ofMetadata : Option Metadata → Rates
  | none => ⟨0.0, 0, 0⟩
  | some metadata =>
      ⟨(metadata.number "framerate").getD 0.0,
        ((metadata.number "videodatarate").map fun rate => (rate * 1024.0).toUInt32).getD 0,
        ((metadata.number "audiodatarate").map fun rate => (rate * 1024.0).toUInt32).getD 0⟩

/-! ## The codecs -/

/-- The values of a script tag: its name and the values behind it. -/
def decodeScript (shortRead : Amf0.ShortRead) (data : Bytes) :
    Except IoFault (String × List Amf0.Amf0Value) :=
  match Amf0.Amf0Decoder.decodeWithType shortRead .string data 0 with
  | .ok (.string name, position) =>
      match Amf0.Amf0Decoder.decodeAll shortRead data position with
      | .ok (values, _) => .ok (name, values)
      | .error .panic => .error .panic
      | .error _ => .error (.invalidData "Invalid script data")
  | .error .panic => .error .panic
  | _ => .error (.invalidData "Invalid script data name")

/-- The crates that read the sequence headers and the script tags. -/
def codecs (shortRead : Amf0.ShortRead) : Codecs where
  AvcConfig := H264.AVCDecoderConfigurationRecord
  HevcConfig := H265.HEVCDecoderConfigurationRecord
  Av1Config := Av1.AV1CodecConfigurationRecord
  readAvcConfig := H264.AVCDecoderConfigurationRecord.demux
  readHevcConfig := H265.HEVCDecoderConfigurationRecord.demux
  readAv1Config := Av1.AV1CodecConfigurationRecord.demux
  decodeScript := decodeScript shortRead

/-! ## The tracks -/

/-- What the sequence header of the picture says. -/
structure Picture where
  brand : Ftyp.FourCC
  codec : VideoCodec
  entry : DynBox
  width : UInt32
  height : UInt32
  framerate : Float

/-- What the sequence header of the sound says. -/
structure Sound where
  codec : AudioCodec
  entry : DynBox
  channels : UInt8
  sampleRate : UInt32

/-- The frame rate of a parameter set, or the one of the metadata. -/
def framerateOf (own told : Float) : Float := if own != 0.0 then own else told

def av1Codec (sequence : Av1.SequenceHeaderObu) (point : Av1.OperatingPoint) : VideoCodec :=
  let color := sequence.colorConfig
  .av1 sequence.seqProfile point.seqLevelIdx point.seqTier (UInt8.ofInt color.bitDepth)
    color.monoChrome color.subsamplingX color.subsamplingY color.colorPrimaries
    color.transferCharacteristics color.matrixCoefficients color.fullColorRange

/-- The first operating point.  A header without one is an index out of range. -/
def firstPoint (sequence : Av1.SequenceHeaderObu) : Except TransmuxError Av1.OperatingPoint :=
  match sequence.operatingPoints with
  | point :: _ => .ok point
  | [] => .error (.io .panic)

variable {shortRead : Amf0.ShortRead}

def Picture.ofHeader (checks : OverflowChecks) (told : Float) :
    VideoSequenceHeader (codecs shortRead) → Except TransmuxError Picture
  | .avc (config : H264.AVCDecoderConfigurationRecord) => do
      let (entry, sps) ← Codecs.Avc.stsdEntry checks config
      return ⟨.avc1, .avc config.profileIndication config.profileCompatibility
        config.levelIndication, entry, sps.width.toUInt32, sps.height.toUInt32,
        framerateOf sps.frameRate told⟩
  | .av1 (config : Av1.AV1CodecConfigurationRecord) => do
      let (entry, sequence) ← Codecs.Av1.stsdEntry checks config
      let point ← firstPoint sequence
      return ⟨.av01, av1Codec sequence point, entry, sequence.maxFrameWidth.toUInt32,
        sequence.maxFrameHeight.toUInt32, told⟩
  | .hevc (config : H265.HEVCDecoderConfigurationRecord) => do
      let (entry, sps) ← Codecs.Hevc.stsdEntry checks config
      return ⟨.hev1, .hevc config.generalProfileSpace config.generalProfileCompatibilityFlags
        config.generalProfileIdc config.generalLevelIdc config.generalTierFlag
        config.generalConstraintIndicatorFlags, entry, sps.width.toUInt32, sps.height.toUInt32,
        framerateOf sps.frameRate told⟩

def Sound.ofHeader (header : AudioSequenceHeader) : Except TransmuxError Sound :=
  match header.data with
  | .aac data => do
      let (entry, config) ← Codecs.Aac.stsdEntry header.soundSize header.soundType data
      let channels ← Codecs.Aac.channels header.soundType
      return ⟨.aac config.audioObjectType, entry, channels.toUInt8, config.samplingFrequency⟩

/-! ## The boxes -/

/-- Tables without samples. -/
def emptyTables (entry : DynBox) : Stbl DynBox :=
  .new (.new [entry]) (.new []) (.new []) (.new []) (some (.new 0 []))

def trakOf (tkhd : Tkhd) (timescale : UInt32) (handler : HandlerType) (name : String)
    (entry : DynBox) (vmhd : Option Vmhd) (smhd : Option Smhd) : Trak DynBox :=
  .new tkhd none (.new (.new 0 0 timescale 0) (.new handler name)
    (.new (.url .new) (emptyTables entry) vmhd smhd))

def initFtyp (picture : Picture) : Ftyp :=
  .new .iso5 512 [.iso5, .iso6, picture.brand, .mp41]

/-- The movie with the given entries in its two tracks. -/
def movieOf (pictureTkhd soundTkhd : Tkhd) (timescale sampleRate : UInt32)
    (pictureEntry soundEntry : DynBox) : Moov DynBox :=
  .new (.new 0 0 1000 0 1)
    [trakOf pictureTkhd timescale .vide "VideoHandler" pictureEntry (some .new) none,
      trakOf soundTkhd sampleRate .soun "SoundHandler" soundEntry none (some .new)]
    (some (.new [.new 1, .new 2] none))

def initMoov (checks : OverflowChecks) (picture : Picture) (sound : Sound) (timescale : UInt32) :
    Except IoFault (Moov DynBox) := do
  let pictureTkhd ← Tkhd.new checks 0 0 1 0 (some (picture.width, picture.height))
  let soundTkhd ← Tkhd.new checks 0 0 2 0 none
  return movieOf pictureTkhd soundTkhd timescale sound.sampleRate picture.entry sound.entry

/-- The file type and the movie, one behind the other. -/
def initBytes (checks : OverflowChecks) (picture : Picture) (sound : Sound) (timescale : UInt32) :
    Except IoFault Bytes := do
  let ftyp ← BoxType.mux (initFtyp picture)
  let movie ← initMoov checks picture sound timescale
  let moov ← BoxType.mux movie
  return ftyp ++ moov

/-- What the tracks must not lack. -/
def checkTracks (picture : Picture) (sound : Sound) : Except TransmuxError Unit :=
  if picture.framerate == 0.0 then .error .invalidVideoFrameRate
  else if picture.width = 0 ∨ picture.height = 0 then .error .invalidVideoDimensions
  else if sound.sampleRate = 0 then .error .invalidAudioSampleRate
  else .ok ()

def timescaleOf (framerate : Float) : UInt32 := (1000.0 * framerate).toUInt32

def initSegment (checks : OverflowChecks) (video : VideoSequenceHeader (codecs shortRead))
    (audio : AudioSequenceHeader) (metadata : Option Metadata) :
    Except TransmuxError (Bytes × VideoSettings VideoCodec × AudioSettings AudioCodec) := do
  let rates := Rates.ofMetadata metadata
  let picture ← Picture.ofHeader checks rates.framerate video
  let sound ← Sound.ofHeader audio
  checkTracks picture sound
  let timescale := timescaleOf picture.framerate
  let data ← liftIo (initBytes checks picture sound timescale)
  return (data, ⟨picture.width, picture.height, picture.framerate, rates.videoBitrate,
      picture.codec, timescale⟩,
    ⟨sound.sampleRate, sound.channels, rates.audioBitrate, sound.codec, sound.sampleRate⟩)

/-- The transmuxer with the crates it is built on. -/
def environment (checks : OverflowChecks) (shortRead : Amf0.ShortRead) : Environment where
  toCodecs := codecs shortRead
  VideoCodec := VideoCodec
  AudioCodec := AudioCodec
  initSegment := initSegment checks

/-! A file with a packet of sound and the end of a picture.  The reader of the second body leaves
its last two bytes. -/

def smallFields : HeaderFields := ⟨1, 5, [0xEE], by decide⟩

def smallRecords : List (TagRecord (environment .on .stays).toCodecs) :=
  [⟨0, .audio, 0x01000002, 0, [0xAF, 1, 33], .audio ⟨⟨3⟩, .bit16, .stereo, .aac (.raw [33])⟩,
      by decide, by decide, rfl⟩,
    ⟨14, .video, 40, 7, [0x17, 2, 0, 0, 0, 9, 9], .video ⟨.keyframe, .avc .endOfSequence⟩,
      by decide, by decide, rfl⟩]

/-- The tags that stand in the file. -/
def smallTags : List (FlvTag (environment .on .stays).toCodecs) :=
  [⟨0x01000002, 0, .audio ⟨⟨3⟩, .bit16, .stereo, .aac (.raw [33])⟩⟩,
    ⟨40, 7, .video ⟨.keyframe, .avc .endOfSequence⟩⟩]

theorem Transmuxer.framing_reads_back_two :
    FlvFile.demux (environment .on .stays).toCodecs
        (smallFields.bytes ++ bodyBytes _ smallRecords (some 18)) 0 =
      .ok (⟨⟨1, true, true, [0xEE]⟩, smallTags⟩, 54) ∧
    Transmuxer.new.demux (bodyBytes _ smallRecords (some 18)) =
      (.ok (), { (Transmuxer.new : Transmuxer (environment .on .stays)) with tags := smallTags }) ∧
    (∀ record ∈ smallRecords, ∀ before after : Bytes,
      FlvTag.demux (environment .on .stays).toCodecs (before ++ record.tagBytes ++ after)
          before.length = .ok (record.tag, before.length + (11 + record.body.length))) ∧
    smallRecords.map (·.body.length) = [3, 7] := by
  obtain ⟨file, queue, consumed, _⟩ :=
    Transmuxer.new.framing_reads_back smallFields smallRecords (some 18)
  exact ⟨file [], queue, fun record _ => consumed record, rfl⟩

end ScuffleVideo.Transmux
