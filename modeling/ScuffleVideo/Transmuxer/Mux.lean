import ScuffleVideo.Flv.File
import ScuffleVideo.Transmuxer.Define

/-!
# The transmuxer

Tags are queued as they are fed.  Until both sequence headers have been seen,
`mux` only looks for them in the queue and leaves it alone; after that each call
takes tags from the front until one of them makes a media segment.  The counters
wrap, as in a build without overflow checks.
-/

namespace ScuffleVideo.Transmux

open Wire Wire.Reader Flv Mp4

structure Transmuxer (env : Environment) where
  audioDuration : UInt64
  videoDuration : UInt64
  sequenceNumber : UInt32
  lastVideoTimestamp : UInt32
  settings : Option (VideoSettings env.VideoCodec × AudioSettings env.AudioCodec)
  tags : List (FlvTag env.toCodecs)

variable {env : Environment}

def Transmuxer.new : Transmuxer env where
  audioDuration := 0
  videoDuration := 0
  sequenceNumber := 1
  lastVideoTimestamp := 0
  settings := none
  tags := []

/-! ## Feeding -/

/-- The tags read from raw data, and how the reading ended.  Each tag follows the
size of the one before it. -/
def demuxTags (env : Environment) (data : Bytes) :
    Nat → Nat → List (FlvTag env.toCodecs) × Except TransmuxError Unit
  | 0, _ => ([], .error (.io .unfinished))
  | rounds + 1, position =>
      if position < data.length then
        match (readU32 : Reader IoFault UInt32) data position with
        | .error fault => ([], .error (.io fault))
        | .ok (_, start) =>
            if start < data.length then
              match FlvTag.demux env.toCodecs data start with
              | .error fault => ([], .error (.io fault))
              | .ok (tag, stop) =>
                  let (tags, result) := demuxTags env data rounds stop
                  (tag :: tags, result)
            else ([], .ok ())
      else ([], .ok ())

/-- One round for each byte is enough: more rounds change nothing. -/
theorem demuxTags_rounds (env : Environment) (data : Bytes) {rounds position : Nat}
    (enough : data.length ≤ position + rounds) (extra : Nat) :
    demuxTags env data (rounds + 1 + extra) position = demuxTags env data (rounds + 1) position := by
  induction rounds generalizing position with
  | zero =>
      have finished : ¬position < data.length := by omega
      rw [Nat.zero_add, Nat.add_comm, demuxTags, demuxTags, if_neg finished, if_neg finished]
  | succ rounds ih =>
      rw [show rounds + 1 + 1 + extra = rounds + 1 + extra + 1 by omega, demuxTags, demuxTags]
      split
      · cases sized : (readU32 : Reader IoFault UInt32) data position with
        | error fault => rfl
        | ok read =>
            have moved := Consumes.readU32 _ _ _ _ sized
            dsimp only
            split
            · cases tagged : FlvTag.demux env.toCodecs data read.2 with
              | error fault => rfl
              | ok tag =>
                  have movedOn := FlvTag.demux_consumes env.toCodecs _ _ _ _ tagged
                  dsimp only
                  rw [@ih tag.2 (by omega)]
            · rfl
      · rfl

/-- The loop over a file and the loop of the transmuxer read the same tags. -/
theorem demuxTags_of_readTags {data : Bytes} {rounds position stop : Nat}
    {tags : List (FlvTag env.toCodecs)}
    (read : FlvFile.readTags env.toCodecs rounds data position = .ok (tags, stop)) :
    demuxTags env data rounds position = (tags, .ok ()) := by
  induction rounds generalizing position tags with
  | zero => cases read
  | succ rounds ih =>
      obtain ⟨left, same, counted, read⟩ := bind_eq_ok_iff.mp read
      cases counted
      rw [demuxTags]
      by_cases more : position < data.length
      · rw [if_neg (show ¬data.length - position = 0 by omega)] at read
        obtain ⟨size, start, sized, read⟩ := bind_eq_ok_iff.mp read
        obtain ⟨left, same, counted, read⟩ := bind_eq_ok_iff.mp read
        cases counted
        rw [if_pos more, sized]
        dsimp only
        by_cases further : start < data.length
        · rw [if_neg (show ¬data.length - start = 0 by omega)] at read
          obtain ⟨tag, past, tagged, read⟩ := bind_eq_ok_iff.mp read
          obtain ⟨others, last, rest, done⟩ := bind_eq_ok_iff.mp read
          cases done
          rw [if_pos further, tagged]
          dsimp only
          rw [ih rest]
        · rw [if_pos (show data.length - start = 0 by omega)] at read
          cases read
          rw [if_neg further]
      · rw [if_pos (show data.length - position = 0 by omega)] at read
        cases read
        rw [if_neg more]

namespace Transmuxer

/-- Tags read before an error stay in the queue. -/
def demux (transmuxer : Transmuxer env) (data : Bytes) :
    Except TransmuxError Unit × Transmuxer env :=
  let (tags, result) := demuxTags env data (data.length + 1) 0
  (result, { transmuxer with tags := transmuxer.tags ++ tags })

def addTag (transmuxer : Transmuxer env) (tag : FlvTag env.toCodecs) : Transmuxer env :=
  { transmuxer with tags := transmuxer.tags ++ [tag] }

theorem demux_bodyBytes (transmuxer : Transmuxer env) (records : List (TagRecord env.toCodecs))
    (lastTagSize : Option UInt32) :
    transmuxer.demux (bodyBytes env.toCodecs records lastTagSize) =
      (.ok (), { transmuxer with tags := transmuxer.tags ++ records.map TagRecord.tag }) := by
  have read := FlvFile.readTags_bodyBytes records lastTagSize
    (Nat.lt_succ_of_le (FlvFile.length_records records lastTagSize)) []
  rw [demux]
  exact congrArg (fun pair : List (FlvTag env.toCodecs) × Except TransmuxError Unit =>
    (pair.2, { transmuxer with tags := transmuxer.tags ++ pair.1 })) (demuxTags_of_readTags read)

/-- What is written as a file is read back: a file with its header and its tags, the records alone
as tags of the queue.  Each tag ends where its size says, whatever the reader of its body leaves. -/
theorem framing_reads_back (transmuxer : Transmuxer env) (fields : HeaderFields)
    (records : List (TagRecord env.toCodecs)) (lastTagSize : Option UInt32) :
    (∀ before : Bytes, FlvFile.demux env.toCodecs
        (before ++ (fields.bytes ++ bodyBytes env.toCodecs records lastTagSize)) before.length =
      .ok (⟨fields.header, records.map TagRecord.tag⟩, before.length +
        (fields.bytes ++ bodyBytes env.toCodecs records lastTagSize).length)) ∧
    transmuxer.demux (bodyBytes env.toCodecs records lastTagSize) =
      (.ok (), { transmuxer with tags := transmuxer.tags ++ records.map TagRecord.tag }) ∧
    (∀ (record : TagRecord env.toCodecs) (before after : Bytes),
      FlvTag.demux env.toCodecs (before ++ record.tagBytes ++ after) before.length =
        .ok (record.tag, before.length + (11 + record.body.length))) ∧
    ∀ (data : Bytes) (position stop : Nat) (tag : FlvTag env.toCodecs),
      FlvTag.demux env.toCodecs data position = .ok (tag, stop) →
        stop = position + (11 + ofBytesBE ((data.drop (position + 1)).take 3)) := by
  refine ⟨FlvFile.demux_bytes fields records lastTagSize,
    demux_bodyBytes transmuxer records lastTagSize, ?_, ?_⟩
  · intro record before after
    rw [record.demux_tagBytes before after, record.length_tagBytes]
  · intro data position stop tag read
    exact FlvTag.demux_stop read

end Transmuxer

/-! ## The init segment -/

structure Tags (env : Environment) where
  videoSequenceHeader : Option (VideoSequenceHeader env.toCodecs)
  audioSequenceHeader : Option AudioSequenceHeader
  scriptdataTag : Option Metadata

/-- The properties of the first object among script values. -/
def metaObject : List Amf0.Amf0Value → Option Metadata
  | [] => none
  | .object properties :: _ => some properties
  | _ :: values => metaObject values

/-- What one tag contributes to the search for headers. -/
def Tags.add (found : Tags env) (tag : FlvTag env.toCodecs) : Tags env :=
  match tag.data with
  | .video ⟨_, .avc (.sequenceHeader config)⟩ =>
      { found with videoSequenceHeader := some (.avc config) }
  | .video ⟨_, .enhanced (.av1 (.sequenceStart config))⟩ =>
      { found with videoSequenceHeader := some (.av1 config) }
  | .video ⟨_, .enhanced (.hevc (.sequenceStart config))⟩ =>
      { found with videoSequenceHeader := some (.hevc config) }
  | .audio ⟨_, soundSize, soundType, .aac (.sequenceHeader data)⟩ =>
      { found with audioSequenceHeader := some ⟨soundSize, soundType, .aac data⟩ }
  | .scriptData ⟨name, data⟩ =>
      if name = "@setDataFrame" ∨ name = "onMetaData" then
        match metaObject data with
        | some properties => { found with scriptdataTag := some properties }
        | none => found
      else found
  | _ => found

def Tags.complete (found : Tags env) : Bool :=
  found.videoSequenceHeader.isSome && found.audioSequenceHeader.isSome &&
    found.scriptdataTag.isSome

/-- Later headers replace earlier ones until all three have been found. -/
def findTagsFrom (found : Tags env) : List (FlvTag env.toCodecs) → Tags env
  | [] => found
  | tag :: tags => if found.complete then found else findTagsFrom (found.add tag) tags

namespace Transmuxer

def findTags (transmuxer : Transmuxer env) : Tags env :=
  findTagsFrom ⟨none, none, none⟩ transmuxer.tags

def initSequence (transmuxer : Transmuxer env) :
    Except TransmuxError
      (Option (Bytes × VideoSettings env.VideoCodec × AudioSettings env.AudioCodec)) :=
  let found := transmuxer.findTags
  match found.videoSequenceHeader, found.audioSequenceHeader with
  | some video, some audio => do
      return some (← env.initSegment video audio found.scriptdataTag)
  | _, _ => .ok none

end Transmuxer

/-! ## Media segments -/

/-- The duration of a video frame, in ticks of a thousandth of the frame rate.
A delta within one millisecond of the expected one counts as one frame. -/
def frameDuration (framerate : Float) (lastVideoTimestamp timestampMs : UInt32) : UInt32 :=
  if lastVideoTimestamp = 0 ∨ timestampMs = 0 ∨ timestampMs < lastVideoTimestamp then 1000
  else
    let delta := timestampMs.toFloat - lastVideoTimestamp.toFloat
    let expectedDelta := 1000.0 / framerate
    if (delta - expectedDelta).abs ≤ 1.0 then 1000 else (delta * framerate).toUInt32

/-- A composition time in milliseconds, as whole frames of 1000 ticks. -/
def compositionTicks (framerate milliseconds : Float) : Float :=
  (milliseconds * framerate / 1000.0).floor * 1000.0

/-- What a supported tag contributes to a media segment. -/
structure Sample where
  mdatData : Bytes
  totalDuration : UInt32
  trunSample : TrunSample
  isAudio : Bool
  isKeyframe : Bool

/-- The sample of a tag, unless the tag is of an unsupported kind. -/
def sampleOf (framerate : Float) (lastVideoTimestamp : UInt32) (tag : FlvTag env.toCodecs) :
    Option Sample :=
  let duration := frameDuration framerate lastVideoTimestamp tag.timestampMs
  match tag.data with
  | .audio ⟨_, _, _, .aac (.raw data)⟩ =>
      let (sample, duration) := Codecs.Aac.trunSample data
      some ⟨data, duration, sample, true, false⟩
  | .video ⟨frameType, .avc (.nalu compositionTime data)⟩ =>
      let compositionTime := compositionTicks framerate compositionTime.toFloat
      let sample := Codecs.Avc.trunSample frameType compositionTime.toUInt32 duration data
      some ⟨data, duration, sample, false, frameType == .keyframe⟩
  | .video ⟨frameType, .enhanced (.av1 (.raw data))⟩ =>
      let sample := Codecs.Av1.trunSample frameType duration data
      some ⟨data, duration, sample, false, frameType == .keyframe⟩
  | .video ⟨frameType, .enhanced (.hevc (.nalu compositionTime data))⟩ =>
      let compositionTime := compositionTicks framerate (compositionTime.getD 0).toFloat
      let sample := Codecs.Hevc.trunSample frameType compositionTime.toInt32 duration data
      some ⟨data, duration, sample, false, frameType == .keyframe⟩
  | _ => none

/-- The track fragment of a sample before its data offset is known. -/
def sampleTraf (trackId : UInt32) (baseMediaDecodeTime : UInt64) (sample : TrunSample) :
    Traf DynBox :=
  Traf.optimize (Traf.new (Tfhd.new trackId none none none none none)
    (some (Trun.new [sample] none)) (some (Tfdt.new baseMediaDecodeTime)))

/-- The fragment with the data offset of its first run filled in. -/
def setDataOffset (offset : Int32) (moof : Moof DynBox) : Moof DynBox :=
  { moof with
    traf := moof.traf.modifyHead fun traf =>
      { traf with trun := traf.trun.map fun trun => { trun with dataOffset := some offset } } }

namespace Transmuxer

/-- The movie fragment of a sample.  The offset counts from the start of the
fragment to the first byte after the header of the media data box. -/
def sampleMoof (transmuxer : Transmuxer env) (sample : Sample) : Moof DynBox :=
  let (mainDuration, mainId) :=
    if sample.isAudio then (transmuxer.audioDuration, 2) else (transmuxer.videoDuration, 1)
  let moof := Moof.new (Mfhd.new transmuxer.sequenceNumber)
    [sampleTraf mainId mainDuration sample.trunSample]
  setDataOffset (Int32.ofNat (BoxType.size moof) + 8) moof

/-- The bytes of the segment of a sample: the fragment and its media data. -/
def segmentBytes (transmuxer : Transmuxer env) (sample : Sample) : Except IoFault Bytes := do
  let moof ← BoxType.mux (transmuxer.sampleMoof sample)
  let mdat ← BoxType.mux (Mdat.new [sample.mdatData])
  return moof ++ mdat

/-- Write the segment of a sample and advance the counters.  The timestamp is
read back from the advanced duration. -/
def writeSegment (transmuxer : Transmuxer env) (timestampMs : UInt32) (sample : Sample) :
    Except TransmuxError (Option (TransmuxResult env)) × Transmuxer env :=
  match transmuxer.segmentBytes sample with
  | .error fault => (.error (.io fault), transmuxer)
  | .ok data =>
      let total := sample.totalDuration.toUInt64
      let transmuxer := { transmuxer with sequenceNumber := transmuxer.sequenceNumber + 1 }
      if sample.isAudio then
        let transmuxer := { transmuxer with audioDuration := transmuxer.audioDuration + total }
        (.ok (some (.mediaSegment ⟨data, .audio, false, transmuxer.audioDuration - total⟩)),
          transmuxer)
      else
        let transmuxer := { transmuxer with
          videoDuration := transmuxer.videoDuration + total
          lastVideoTimestamp := timestampMs }
        (.ok (some (.mediaSegment ⟨data, .video, sample.isKeyframe,
          transmuxer.videoDuration - total⟩)), transmuxer)

/-- Take tags from the front until one of them makes a segment. -/
def muxTags (framerate : Float) (transmuxer : Transmuxer env) :
    List (FlvTag env.toCodecs) →
      Except TransmuxError (Option (TransmuxResult env)) × Transmuxer env
  | [] => (.ok none, { transmuxer with tags := [] })
  | tag :: tags =>
      match sampleOf framerate transmuxer.lastVideoTimestamp tag with
      | some sample => writeSegment { transmuxer with tags := tags } tag.timestampMs sample
      | none => muxTags framerate transmuxer tags

def mux (transmuxer : Transmuxer env) :
    Except TransmuxError (Option (TransmuxResult env)) × Transmuxer env :=
  match transmuxer.settings with
  | none =>
      match transmuxer.initSequence with
      | .error error => (.error error, transmuxer)
      | .ok none =>
          if 30 < transmuxer.tags.length then (.error .noSequenceHeaders, transmuxer)
          else (.ok none, transmuxer)
      | .ok (some (data, videoSettings, audioSettings)) =>
          (.ok (some (.initSegment videoSettings audioSettings data)),
            { transmuxer with settings := some (videoSettings, audioSettings) })
  | some (videoSettings, _) => muxTags videoSettings.framerate transmuxer transmuxer.tags

end Transmuxer

end ScuffleVideo.Transmux
