import ScuffleVideo.Transmuxer.Segment

/-!
# Media segments

Every supported tag at the front of the queue makes one media segment.  The
segment is the fragment of its one sample followed by the media data box that
frames its payload, and the counters of its track advance by its duration.
-/

namespace ScuffleVideo.Transmux

open Wire Wire.Reader Flv Mp4

variable {env : Environment}

/-! ## Supported tags -/

/-- The track and the payload of a tag of a supported kind: raw AAC, AVC units,
raw AV1 or HEVC units. -/
def media (tag : FlvTag env.toCodecs) : Option (MediaType × Bytes) :=
  match tag.data with
  | .audio ⟨_, _, _, .aac (.raw data)⟩ => some (.audio, data)
  | .video ⟨_, .avc (.nalu _ data)⟩ => some (.video, data)
  | .video ⟨_, .enhanced (.av1 (.raw data))⟩ => some (.video, data)
  | .video ⟨_, .enhanced (.hevc (.nalu _ data))⟩ => some (.video, data)
  | _ => none

/-- The id of the track of each kind of media. -/
def trackId : MediaType → UInt32
  | .video => 1
  | .audio => 2

namespace Sample

def ty (sample : Sample) : MediaType := if sample.isAudio then .audio else .video

/-- The sample describes its own payload and its offset is a 32-bit number. -/
structure Sound (sample : Sample) : Prop where
  described : ∃ independent offset,
    sample.trunSample = Transmux.trunSample sample.totalDuration offset independent sample.mdatData ∧
      ∀ number, offset = some number → FromWord number
  audio : sample.isAudio = true → sample.isKeyframe = false

end Sample

/-- Exactly the supported tags have a sample, and it is the tag's own. -/
theorem media_eq_sampleOf (framerate : Float) (lastVideoTimestamp : UInt32)
    (tag : FlvTag env.toCodecs) :
    media tag = (sampleOf framerate lastVideoTimestamp tag).map fun sample =>
      (sample.ty, sample.mdatData) := by
  unfold media sampleOf
  split <;> simp_all [Sample.ty]

theorem sampleOf_sound {framerate : Float} {lastVideoTimestamp : UInt32}
    {tag : FlvTag env.toCodecs} {sample : Sample}
    (found : sampleOf framerate lastVideoTimestamp tag = some sample) : sample.Sound := by
  unfold sampleOf at found
  split at found
  · cases found
    exact ⟨⟨true, none, rfl, fun _ absent => by cases absent⟩, fun _ => rfl⟩
  · rename_i frameType compositionTime data _
    cases found
    refine ⟨⟨frameType == .keyframe, _, rfl, fun number same => ?_⟩, fun audio => by cases audio⟩
    cases same
    exact Or.inl ⟨_, rfl⟩
  · rename_i frameType data _
    cases found
    exact ⟨⟨frameType == .keyframe, none, rfl, fun _ absent => by cases absent⟩,
      fun audio => by cases audio⟩
  · rename_i frameType compositionTime data _
    cases found
    refine ⟨⟨frameType == .keyframe, _, rfl, fun number same => ?_⟩, fun audio => by cases audio⟩
    cases same
    exact Or.inr ⟨_, rfl⟩
  · cases found

/-! ## The timeline of one segment -/

/-- The counters that one segment takes its values from and hands on to the
next. -/
structure Counters where
  audioDuration : UInt64
  videoDuration : UInt64
  sequenceNumber : UInt32
  lastVideoTimestamp : UInt32
  deriving DecidableEq, Repr

namespace Counters

def trackDuration (counters : Counters) : MediaType → UInt64
  | .video => counters.videoDuration
  | .audio => counters.audioDuration

/-- The counters after the segment of a sample. -/
def advance (counters : Counters) (timestampMs : UInt32) (sample : Sample) : Counters :=
  let total := sample.totalDuration.toUInt64
  if sample.isAudio then
    { counters with
      sequenceNumber := counters.sequenceNumber + 1
      audioDuration := counters.audioDuration + total }
  else
    { counters with
      sequenceNumber := counters.sequenceNumber + 1
      videoDuration := counters.videoDuration + total
      lastVideoTimestamp := timestampMs }

/-- The fragment that is written for a sample. -/
structure Describes (counters : Counters) (sample : Sample) (fragment : Fragment) : Prop where
  sequenceNumber : fragment.sequenceNumber = counters.sequenceNumber
  trackId : fragment.trackId = Transmux.trackId sample.ty
  baseMediaDecodeTime : fragment.baseMediaDecodeTime = counters.trackDuration sample.ty
  duration : fragment.duration = sample.totalDuration
  trunSample : sample.trunSample =
    ⟨some fragment.duration, some fragment.size, some fragment.flags,
      fragment.compositionTimeOffset⟩
  size : fragment.size = UInt32.ofNat sample.mdatData.length

theorem exists_fragment (counters : Counters) {sample : Sample} (sound : sample.Sound) :
    ∃ fragment, counters.Describes sample fragment := by
  obtain ⟨independent, offset, shape, words⟩ := sound.described
  exact ⟨⟨counters.sequenceNumber, Transmux.trackId sample.ty,
      counters.trackDuration sample.ty, sample.totalDuration,
      UInt32.ofNat sample.mdatData.length, sampleFlags independent, offset,
      sampleFlags_valid independent, words⟩,
    rfl, rfl, rfl, rfl, shape, rfl⟩

/-- The segment of a sample. -/
def segment (counters : Counters) (sample : Sample) (fragment : Fragment) : MediaSegment where
  data := fragment.bytes ++ frame Mdat.name sample.mdatData
  ty := sample.ty
  keyframe := sample.isKeyframe
  timestamp := counters.trackDuration sample.ty

end Counters

namespace Transmuxer

def counters (transmuxer : Transmuxer env) : Counters :=
  ⟨transmuxer.audioDuration, transmuxer.videoDuration, transmuxer.sequenceNumber,
    transmuxer.lastVideoTimestamp⟩

def withCounters (transmuxer : Transmuxer env) (counters : Counters) : Transmuxer env where
  audioDuration := counters.audioDuration
  videoDuration := counters.videoDuration
  sequenceNumber := counters.sequenceNumber
  lastVideoTimestamp := counters.lastVideoTimestamp
  settings := transmuxer.settings
  tags := transmuxer.tags

/-! ## Writing one segment -/

variable {transmuxer : Transmuxer env} {sample : Sample} {fragment : Fragment}

/-- The fragment is built as the first pass leaves it, then the offset is filled
in. -/
theorem sampleMoof_eq (describes : transmuxer.counters.Describes sample fragment) :
    transmuxer.sampleMoof sample = fragment.moof fragment.filledOffset := by
  have first : Moof.new (Mfhd.new transmuxer.sequenceNumber)
      [sampleTraf (trackId sample.ty) (transmuxer.counters.trackDuration sample.ty)
        sample.trunSample] = fragment.moof 0 := by
    rw [describes.trunSample, sampleTraf_eq, ← describes.trackId,
      ← describes.baseMediaDecodeTime]
    change Moof.new (Mfhd.new transmuxer.counters.sequenceNumber) _ = _
    rw [← describes.sequenceNumber]
    rfl
  have track : (if sample.isAudio then (transmuxer.audioDuration, 2)
      else (transmuxer.videoDuration, 1)) =
      (transmuxer.counters.trackDuration sample.ty, trackId sample.ty) := by
    unfold Sample.ty
    split <;> rfl
  unfold sampleMoof
  rw [track]
  dsimp only
  rw [first]
  rfl

theorem segmentBytes_eq (describes : transmuxer.counters.Describes sample fragment) :
    transmuxer.segmentBytes sample = .ok (fragment.bytes ++ frame Mdat.name sample.mdatData) := by
  have moofWritten := (fragment.written fragment.filledOffset).mux
  have mdatWritten := (Mdat.written (.new [sample.mdatData])).mux
  rw [show (Mdat.new [sample.mdatData]).data.flatten = sample.mdatData by
    simp [Mdat.new]] at mdatWritten
  unfold segmentBytes
  rw [sampleMoof_eq describes, moofWritten, mdatWritten]
  rfl

/-- Writing always succeeds, and the timestamp is the duration of the track before
the segment. -/
theorem writeSegment_eq (sound : sample.Sound)
    (describes : transmuxer.counters.Describes sample fragment) (timestampMs : UInt32) :
    transmuxer.writeSegment timestampMs sample =
      (.ok (some (.mediaSegment (transmuxer.counters.segment sample fragment))),
        transmuxer.withCounters (transmuxer.counters.advance timestampMs sample)) := by
  unfold writeSegment Counters.advance Counters.segment Sample.ty
  rw [segmentBytes_eq describes]
  by_cases audio : sample.isAudio = true
  · simp only [audio, if_true, sound.audio audio, UInt64.add_sub_cancel]
    rfl
  · simp only [audio, if_false, Bool.false_eq_true, UInt64.add_sub_cancel]
    rfl

/-- The segment of a tag taken from the queue. -/
theorem writeSegment_taken (sound : sample.Sound)
    (describes : transmuxer.counters.Describes sample fragment)
    (rest : List (FlvTag env.toCodecs)) (timestampMs : UInt32) :
    writeSegment { transmuxer with tags := rest } timestampMs sample =
      (.ok (some (.mediaSegment (transmuxer.counters.segment sample fragment))),
        { transmuxer with tags := rest }.withCounters
          (transmuxer.counters.advance timestampMs sample)) :=
  @writeSegment_eq env { transmuxer with tags := rest } sample fragment sound describes timestampMs

/-! ## The segment at the front of the queue -/

/-- Once the settings are known only the queue matters. -/
theorem mux_ready {settings : VideoSettings env.VideoCodec × AudioSettings env.AudioCodec}
    (ready : transmuxer.settings = some settings) :
    transmuxer.mux = transmuxer.muxTags settings.1.framerate transmuxer.tags := by
  unfold mux
  rw [ready]

theorem muxTags_supported (framerate : Float) (transmuxer : Transmuxer env)
    {tag : FlvTag env.toCodecs} (rest : List (FlvTag env.toCodecs))
    (found : sampleOf framerate transmuxer.lastVideoTimestamp tag = some sample) :
    transmuxer.muxTags framerate (tag :: rest) =
      writeSegment { transmuxer with tags := rest } tag.timestampMs sample := by
  rw [muxTags, found]

/-- What a self-consistent segment of one sample looks like: one fragment and its
media data, one track, one run, one sample, the offset of the payload and the
effective values of the sample. -/
structure SelfConsistent (checks : OverflowChecks) (kind : MediaType) (data : Bytes)
    (computed : TrunSample) (segment : MediaSegment) (moof : Moof DynBox) (traf : Traf DynBox)
    (trun : Trun) (dataOffset : Int32) : Prop where
  parsed : DynBox.demuxAll checks segment.data = .ok [.moof moof, .mdat (.new [data])]
  oneTraf : moof.traf = [traf]
  track : traf.tfhd.trackId = Transmux.trackId kind
  oneRun : traf.trun = some trun
  oneSample : trun.samples.length = 1
  offset : trun.dataOffset = some dataOffset
  pointed : ∃ head : Bytes, segment.data = head ++ data ∧ dataOffset.toInt = head.length
  effective : traf.effectiveSamples =
    [⟨computed.duration, computed.size, computed.flags, computed.compositionTimeOffset.getD 0⟩]
  sized : ∃ size : UInt32, computed.size = some size ∧ size.toNat = data.length

theorem segment_selfConsistent (checks : OverflowChecks) {counters : Counters}
    (describes : counters.Describes sample fragment)
    (short : sample.mdatData.length + 8 ≤ u32Max) :
    SelfConsistent checks sample.ty sample.mdatData sample.trunSample
      (counters.segment sample fragment) (fragment.moof fragment.filledOffset)
      (fragment.traf fragment.filledOffset) (fragment.trun fragment.filledOffset)
      fragment.filledOffset := by
  unfold u32Max at short
  have boxes : ReadsAll (DynBox.demux checks)
      [.moof (fragment.moof fragment.filledOffset), .mdat (.new [sample.mdatData])]
      (fragment.bytes ++ (frame Mdat.name sample.mdatData ++ [])) := by
    apply ReadsAll.cons (fragment.bytes_reads checks) (frame_ne_nil _ _)
    apply ReadsAll.cons (DynBox.mdat_reads checks (by omega)) (frame_ne_nil _ _)
    exact ReadsAll.nil
  rw [List.append_nil] at boxes
  have size : fragment.size.toNat = sample.mdatData.length := by
    rw [describes.size]
    exact UInt32.toNat_ofNat_of_lt' (show sample.mdatData.length < 2 ^ 32 by omega)
  exact {
    parsed := DynBox.demuxAll_eq_ok boxes
    oneTraf := rfl
    track := describes.trackId
    oneRun := rfl
    oneSample := rfl
    offset := rfl
    pointed := by
      refine ⟨fragment.bytes ++ boxHeader Mdat.name (boxSize sample.mdatData.length),
        (List.append_assoc _ _ _).symm, ?_⟩
      have header : boxSize sample.mdatData.length = sample.mdatData.length + 8 := by
        rw [boxSize, if_neg (by unfold u32Max; omega)]
      rw [fragment.toInt_filledOffset, List.length_append, length_boxHeader, header,
        if_neg (by unfold u32Max; omega)]
      rfl
    effective := by
      rw [describes.trunSample]
      exact fragment.effectiveSamples_traf fragment.filledOffset
    sized := ⟨fragment.size, by rw [describes.trunSample], size⟩ }

/-- A supported tag at the front of the queue makes a self-consistent segment. -/
theorem mux_selfConsistent (checks : OverflowChecks) (transmuxer : Transmuxer env)
    {videoSettings : VideoSettings env.VideoCodec} {audioSettings : AudioSettings env.AudioCodec}
    (ready : transmuxer.settings = some (videoSettings, audioSettings))
    {tag : FlvTag env.toCodecs} {rest : List (FlvTag env.toCodecs)}
    (queued : transmuxer.tags = tag :: rest) {kind : MediaType} {data : Bytes}
    (supported : media tag = some (kind, data)) (short : data.length + 8 ≤ u32Max) :
    ∃ sample segment next moof traf trun dataOffset,
      sampleOf videoSettings.framerate transmuxer.lastVideoTimestamp tag = some sample ∧
        transmuxer.mux = (.ok (some (.mediaSegment segment)), next) ∧
        SelfConsistent checks kind data sample.trunSample segment moof traf trun dataOffset := by
  rw [media_eq_sampleOf videoSettings.framerate transmuxer.lastVideoTimestamp,
    Option.map_eq_some_iff] at supported
  obtain ⟨sample, found, same⟩ := supported
  cases same
  have sound := sampleOf_sound found
  obtain ⟨fragment, describes⟩ := transmuxer.counters.exists_fragment sound
  have taken : transmuxer.mux =
      writeSegment { transmuxer with tags := rest } tag.timestampMs sample := by
    rw [mux_ready ready, queued]
    exact muxTags_supported _ transmuxer rest found
  exact ⟨sample, transmuxer.counters.segment sample fragment, _,
    fragment.moof fragment.filledOffset, fragment.traf fragment.filledOffset,
    fragment.trun fragment.filledOffset, fragment.filledOffset, found,
    taken.trans (writeSegment_taken sound describes rest tag.timestampMs),
    segment_selfConsistent checks describes short⟩

end Transmuxer

/-! A raw AAC packet of three bytes, queued alone after initialisation. -/

/-- An environment whose records hold nothing. -/
def plainEnvironment : Environment where
  AvcConfig := Unit
  HevcConfig := Unit
  Av1Config := Unit
  readAvcConfig := pure ()
  readHevcConfig := pure ()
  readAv1Config := pure ()
  decodeScript _ := .error (.invalidData "Invalid script data name")
  VideoCodec := Unit
  AudioCodec := Unit
  initSegment _ _ _ :=
    .ok ([], ⟨1280, 720, 30, 0, (), 30000⟩, ⟨44100, 2, 0, (), 44100⟩)

def rawAacTag (timestampMs : UInt32) (data : Bytes) : FlvTag plainEnvironment.toCodecs :=
  ⟨timestampMs, 0, .audio ⟨⟨3⟩, ⟨1⟩, ⟨1⟩, .aac (.raw data)⟩⟩

def readyTransmuxer : Transmuxer plainEnvironment :=
  ⟨2048, 3000, 6, 66, some (⟨1280, 720, 30, 0, (), 30000⟩, ⟨44100, 2, 0, (), 44100⟩),
    [rawAacTag 70 [33, 16, 4]]⟩

theorem readyTransmuxer_selfConsistent :
    ∃ sample segment next moof traf trun dataOffset,
      sampleOf 30 66 (rawAacTag 70 [33, 16, 4]) = some sample ∧
        readyTransmuxer.mux = (.ok (some (.mediaSegment segment)), next) ∧
        Transmuxer.SelfConsistent .on .audio [33, 16, 4] sample.trunSample segment moof traf trun
          dataOffset :=
  Transmuxer.mux_selfConsistent .on readyTransmuxer rfl rfl rfl (by decide)

end ScuffleVideo.Transmux
