import ScuffleVideo.Transmuxer.Delivery
import ScuffleVideo.Transmuxer.InitRoundTrip

/-!
# The output of a run

All bytes that a run of the transmuxer hands out are one file: the init segment, and behind it
a fragment and its media data for each of the emitted tags.  A player that reads the boxes of the
file, with nothing else to go by, finds the payloads of the tags that were fed, on the tracks
that the movie announces, in order, none lost and none twice.
-/

namespace ScuffleVideo.Transmux

open Wire Wire.Reader Flv Mp4

variable {env : Environment}

/-! ## Where the headers come from -/

/-- The sequence header of a picture in a tag. -/
def videoHeader (tag : FlvTag env.toCodecs) : Option (VideoSequenceHeader env.toCodecs) :=
  match tag.data with
  | .video ⟨_, .avc (.sequenceHeader config)⟩ => some (.avc config)
  | .video ⟨_, .enhanced (.av1 (.sequenceStart config))⟩ => some (.av1 config)
  | .video ⟨_, .enhanced (.hevc (.sequenceStart config))⟩ => some (.hevc config)
  | _ => none

/-- The sequence header of sound in a tag. -/
def audioHeader (tag : FlvTag env.toCodecs) : Option AudioSequenceHeader :=
  match tag.data with
  | .audio ⟨_, soundSize, soundType, .aac (.sequenceHeader data)⟩ =>
      some ⟨soundSize, soundType, .aac data⟩
  | _ => none

theorem add_videoHeader (found : Tags env) (tag : FlvTag env.toCodecs) :
    (found.add tag).videoSequenceHeader =
      (videoHeader tag).or found.videoSequenceHeader := by
  unfold Tags.add videoHeader
  split <;> rename_i shown <;> simp only [shown, Option.some_or, Option.none_or]
  · split
    · split <;> rfl
    · rfl

theorem add_audioHeader (found : Tags env) (tag : FlvTag env.toCodecs) :
    (found.add tag).audioSequenceHeader =
      (audioHeader tag).or found.audioSequenceHeader := by
  unfold Tags.add audioHeader
  split <;> rename_i shown <;> simp only [shown, Option.some_or, Option.none_or]
  · split
    · split <;> rfl
    · rfl

/-- What the search finds was there before or is in one of the tags. -/
theorem findTagsFrom_origin {Field : Type} {field : Tags env → Option Field}
    {header : FlvTag env.toCodecs → Option Field}
    (adds : ∀ found tag, field (found.add tag) = (header tag).or (field found))
    {found : Tags env} {tags : List (FlvTag env.toCodecs)} {value : Field}
    (final : field (findTagsFrom found tags) = some value) :
    field found = some value ∨ ∃ tag ∈ tags, header tag = some value := by
  induction tags generalizing found with
  | nil => exact .inl final
  | cons tag tags ih =>
      rw [findTagsFrom] at final
      split at final
      · exact .inl final
      · rcases ih final with here | ⟨other, member, shown⟩
        · rw [adds] at here
          rcases Option.or_eq_some_iff.mp here with shown | ⟨_, before⟩
          · exact .inr ⟨tag, List.mem_cons_self, shown⟩
          · exact .inl before
        · exact .inr ⟨other, List.mem_cons_of_mem _ member, shown⟩

/-- The result is no init segment, or one made from headers among the tags. -/
def Announced (fed : List (FlvTag env.toCodecs)) : TransmuxResult env → Prop
  | .initSegment videoSettings audioSettings data => ∃ video audio metadata,
      (∃ tag ∈ fed, videoHeader tag = some video) ∧ (∃ tag ∈ fed, audioHeader tag = some audio) ∧
        env.initSegment video audio metadata = .ok (data, videoSettings, audioSettings)
  | .mediaSegment _ => True

theorem Announced.more {fed : List (FlvTag env.toCodecs)} {result : TransmuxResult env}
    (announced : Announced fed result) (tags : List (FlvTag env.toCodecs)) :
    Announced (fed ++ tags) result := by
  cases result with
  | mediaSegment segment => trivial
  | initSegment videoSettings audioSettings data =>
      obtain ⟨video, audio, metadata, ⟨first, among, videoShown⟩, ⟨second, within, audioShown⟩,
        made⟩ := announced
      exact ⟨video, audio, metadata, ⟨first, List.mem_append_left _ among, videoShown⟩,
        ⟨second, List.mem_append_left _ within, audioShown⟩, made⟩

/-- What is queued was fed, and what was announced was made from it. -/
structure Sourced (transmuxer : Transmuxer env) (fed : List (FlvTag env.toCodecs))
    (earlier : List (TransmuxResult env)) : Prop where
  queued : ∀ tag ∈ transmuxer.tags, tag ∈ fed
  announced : ∀ result ∈ earlier, Announced fed result

namespace Sourced

variable {transmuxer : Transmuxer env} {fed : List (FlvTag env.toCodecs)}
  {earlier : List (TransmuxResult env)}

theorem feed (sourced : Sourced transmuxer fed earlier) (tags : List (FlvTag env.toCodecs)) :
    Sourced { transmuxer with tags := transmuxer.tags ++ tags } (fed ++ tags) earlier where
  queued tag member := by
    rcases List.mem_append.mp member with before | added
    · exact List.mem_append_left _ (sourced.queued tag before)
    · exact List.mem_append_right _ added
  announced result member := (sourced.announced result member).more tags

theorem mux_initSegment {videoSettings : VideoSettings env.VideoCodec}
    {audioSettings : AudioSettings env.AudioCodec} {data : Bytes}
    (sourced : Sourced transmuxer fed earlier)
    (found : transmuxer.initSequence = .ok (some (data, videoSettings, audioSettings))) :
    Announced fed (.initSegment videoSettings audioSettings data : TransmuxResult env) := by
  unfold Transmuxer.initSequence at found
  dsimp only at found
  split at found
  · rename_i video audio videoFound audioFound
    obtain ⟨made, built, same⟩ := sequence_eq_ok_iff.mp found
    cases same
    have videoOrigin := findTagsFrom_origin add_videoHeader videoFound
    have audioOrigin := findTagsFrom_origin add_audioHeader audioFound
    rcases videoOrigin with absent | ⟨first, among, videoShown⟩
    · cases absent
    rcases audioOrigin with absent | ⟨second, within, audioShown⟩
    · cases absent
    exact ⟨video, audio, _, ⟨first, sourced.queued first among, videoShown⟩,
      ⟨second, sourced.queued second within, audioShown⟩, built⟩
  · cases found

/-- A result that is handed out, or none. -/
theorem handOut (sourced : Sourced transmuxer fed earlier) {next : Transmuxer env}
    {given : Option (TransmuxResult env)} (queued : ∀ tag ∈ next.tags, tag ∈ fed)
    (announced : ∀ result ∈ given, Announced fed result) :
    Sourced next fed (earlier ++ given.toList) := by
  refine ⟨queued, fun result member => ?_⟩
  rcases List.mem_append.mp member with before | now
  · exact sourced.announced result before
  · exact announced result (Option.mem_toList.mp now)

theorem mux (sourced : Sourced transmuxer fed earlier) :
    Sourced transmuxer.mux.2 fed (earlier ++ (Answer.muxed transmuxer.mux.1).result.toList) := by
  cases known : transmuxer.settings with
  | none =>
      unfold Transmuxer.mux
      rw [known]
      cases searched : transmuxer.initSequence with
      | error error => exact sourced.handOut sourced.queued nofun
      | ok found =>
          cases found with
          | none =>
              dsimp only
              split
              · exact sourced.handOut sourced.queued nofun
              · exact sourced.handOut sourced.queued nofun
          | some built =>
              refine sourced.handOut sourced.queued fun result same => ?_
              cases same
              exact sourced.mux_initSegment searched
  | some settings =>
      rw [Transmuxer.mux_ready known]
      rcases muxTags_cases settings.1.framerate transmuxer transmuxer.tags with
        ⟨unsupported, exhausted⟩ |
          ⟨skipped, tag, rest, sample, split, unsupported, found, written⟩
      · rw [exhausted]
        exact sourced.handOut nofun nofun
      · have sound := sampleOf_sound found
        obtain ⟨fragment, describes⟩ := transmuxer.counters.exists_fragment sound
        rw [written, Transmuxer.writeSegment_taken sound describes rest tag.timestampMs]
        refine sourced.handOut (fun other member => sourced.queued other ?_) fun result same => ?_
        · rw [split]
          exact List.mem_append_right _ (List.mem_cons_of_mem _ member)
        · cases same
          trivial

theorem step (sourced : Sourced transmuxer fed earlier) (call : Call env) :
    Sourced (transmuxer.step call).2 (fed ++ call.fed)
      (earlier ++ (transmuxer.step call).1.result.toList) := by
  cases call with
  | addTag tag =>
      change Sourced _ _ (earlier ++ [])
      rw [List.append_nil]
      exact sourced.feed [tag]
  | demux data =>
      change Sourced _ _ (earlier ++ [])
      rw [List.append_nil]
      exact sourced.feed _
  | mux =>
      change Sourced _ (fed ++ []) _
      rw [List.append_nil]
      exact sourced.mux

theorem of_calls (calls : List (Call env)) :
    Sourced (Transmuxer.new.run calls).2 (fedTags calls)
      (results (Transmuxer.new.run calls).1) :=
  Reactive.run_invariant Call.fed Answer.result Sourced.step
    (⟨nofun, nofun⟩ : Sourced (Transmuxer.new : Transmuxer env) [] []) calls

end Sourced

/-! ## Fragments -/

def TransmuxResult.data : TransmuxResult env → Bytes
  | .initSegment _ _ data => data
  | .mediaSegment segment => segment.data

/-- All bytes that are handed out. -/
def output (results : List (TransmuxResult env)) : Bytes := results.flatMap TransmuxResult.data

theorem output_started (videoSettings : VideoSettings env.VideoCodec)
    (audioSettings : AudioSettings env.AudioCodec) (data : Bytes) (segments : List MediaSegment) :
    output (.initSegment videoSettings audioSettings data :: segments.map .mediaSegment) =
      data ++ segments.flatMap MediaSegment.data := by
  rw [output, List.flatMap_cons, List.flatMap_map]
  rfl

/-- The media in the boxes of a file: what stands behind each fragment, with the tracks of the
fragment. -/
def delivered : List DynBox → List (List UInt32 × Bytes)
  | [] => []
  | .moof moof :: .mdat mdat :: boxes =>
      (moof.traf.map fun traf => traf.tfhd.trackId, mdat.data.flatten) :: delivered boxes
  | _ :: boxes => delivered boxes

/-- The payload of a supported tag and the track it belongs on. -/
def payload (tag : FlvTag env.toCodecs) : Option (List UInt32 × Bytes) :=
  (media tag).map fun shown => ([trackId shown.1], shown.2)

/-- The segments of a timeline are read as one fragment and its media data for each tag. -/
theorem Timeline.reads (reading : OverflowChecks) {framerate : Float} {counters last : Counters}
    {tags : List (FlvTag env.toCodecs)} {segments : List MediaSegment}
    (timeline : Timeline framerate counters tags segments last)
    (short : ∀ tag ∈ tags, ∀ shown ∈ media tag, shown.2.length + 8 ≤ u32Max) :
    ∃ boxes, ReadsAll (DynBox.demux reading) boxes (segments.flatMap MediaSegment.data) ∧
      delivered boxes = tags.filterMap payload := by
  induction timeline with
  | nil counters => exact ⟨[], .nil, rfl⟩
  | @cons counters last tag sample fragment tags segments found describes more ih =>
      obtain ⟨here, later⟩ := List.forall_mem_cons.mp short
      obtain ⟨boxes, records, same⟩ := ih later
      have own : media tag = some (sample.ty, sample.mdatData) := by
        rw [media_eq_sampleOf framerate counters.lastVideoTimestamp, found]
        rfl
      have room := here (sample.ty, sample.mdatData) own
      unfold u32Max at room
      refine ⟨.moof (fragment.moof fragment.filledOffset) ::
        .mdat (.new [sample.mdatData]) :: boxes, ?_, ?_⟩
      · have first := fragment.bytes_reads reading
        have second : Reads (DynBox.demux reading) (frame Mdat.name sample.mdatData) _ :=
          DynBox.mdat_reads reading (by dsimp only at room; omega)
        rw [List.flatMap_cons]
        change ReadsAll _ _ (fragment.bytes ++ frame Mdat.name sample.mdatData ++ _)
        rw [List.append_assoc]
        exact .cons first (frame_ne_nil _ _) (.cons second (frame_ne_nil _ _) records)
      · have here : payload tag = some ([fragment.trackId], sample.mdatData) := by
          rw [payload, own, describes.trackId]
          rfl
        rw [delivered, same, List.filterMap_cons_some here]
        have flat : (Mdat.new [sample.mdatData]).data.flatten = sample.mdatData := by
          simp [Mdat.new]
        rw [flat]
        rfl

/-! ## Every run -/

variable {checks : OverflowChecks} {shortRead : Amf0.ShortRead}

/-- A tag that boxes can hold: the record of a sequence header that can be read, and sizes that
the fields for them can tell. -/
structure Storable (tag : FlvTag (environment checks shortRead).toCodecs) : Prop where
  video : ∀ header : VideoSequenceHeader (codecs shortRead), videoHeader tag = some header →
    header.Readable ∧ header.size + 3000 ≤ u32Max
  audio : ∀ header, audioHeader tag = some header → header.bytes.length ≤ 103
  media : ∀ kind data, media tag = some (kind, data) → data.length + 8 ≤ u32Max

section

variable {tag : FlvTag (environment checks shortRead).toCodecs}

theorem storable_videoHeader {header : VideoSequenceHeader (codecs shortRead)}
    (shown : videoHeader tag = some header) (silent : audioHeader tag = none)
    (other : media tag = none) (readable : header.Readable)
    (small : header.size + 3000 ≤ u32Max) : Storable tag where
  video found same := by
    cases shown.symm.trans same
    exact ⟨readable, small⟩
  audio found same := by cases silent.symm.trans same
  media kind data same := by cases other.symm.trans same

theorem storable_audioHeader {header : AudioSequenceHeader} (shown : audioHeader tag = some header)
    (blind : videoHeader tag = none) (other : media tag = none)
    (short : header.bytes.length ≤ 103) : Storable tag where
  video found same := by cases blind.symm.trans same
  audio found same := by
    cases shown.symm.trans same
    exact short
  media kind data same := by cases other.symm.trans same

theorem storable_media {kind : MediaType} {data : Bytes} (shown : media tag = some (kind, data))
    (blind : videoHeader tag = none) (silent : audioHeader tag = none)
    (short : data.length + 8 ≤ u32Max) : Storable tag where
  video found same := by cases blind.symm.trans same
  audio found same := by cases silent.symm.trans same
  media other bytes same := by
    cases shown.symm.trans same
    exact short

theorem storable_other (blind : videoHeader tag = none) (silent : audioHeader tag = none)
    (other : media tag = none) : Storable tag where
  video found same := by cases blind.symm.trans same
  audio found same := by cases silent.symm.trans same
  media kind data same := by cases other.symm.trans same

end

/-- The file that a run hands out, as a player reads it. -/
structure OutputFile (reading checks : OverflowChecks) {shortRead : Amf0.ShortRead}
    (fed queued emitted : List (FlvTag (environment checks shortRead).toCodecs)) (bytes : Bytes)
    (picture : Picture) (sound : Sound) (movie : Moov DynBox) (fragments : List DynBox) : Prop where
  pictureMade : ∃ tag ∈ fed, ∃ told, ∃ header : VideoSequenceHeader (codecs shortRead),
    videoHeader tag = some header ∧ Picture.ofHeader checks told header = .ok picture
  soundMade : ∃ tag ∈ fed, ∃ header, audioHeader tag = some header ∧ Sound.ofHeader header = .ok sound
  movieMade : ∃ timescale, initMoov checks picture sound timescale = .ok movie
  parsed : DynBox.demuxAll reading bytes =
    .ok (.ftyp (initFtyp picture) :: .moov (storedMoov movie) :: fragments)
  tracks : movie.traks.map (fun trak => (trak.tkhd.trackId, trak.mdia.hdlr.handlerType)) =
    [(trackId .video, HandlerType.vide), (trackId .audio, HandlerType.soun)]
  fragmented : movie.mvex.map (fun mvex => mvex.trex.map Trex.trackId) =
    some [trackId .video, trackId .audio]
  split : supportedTags fed = emitted ++ supportedTags queued
  media : delivered fragments = emitted.filterMap payload

theorem trackIds_initMoov {picture : Picture} {sound : Sound} {timescale : UInt32}
    {movie : Moov DynBox} (made : initMoov checks picture sound timescale = .ok movie) :
    movie.traks.map (fun trak => (trak.tkhd.trackId, trak.mdia.hdlr.handlerType)) =
        [(trackId .video, HandlerType.vide), (trackId .audio, HandlerType.soun)] ∧
      movie.mvex.map (fun mvex => mvex.trex.map Trex.trackId) =
        some [trackId .video, trackId .audio] := by
  have named {number : UInt32} {size : Option (UInt32 × UInt32)} {tkhd : Tkhd}
      (made : Tkhd.new checks 0 0 number 0 size = .ok tkhd) : tkhd.trackId = number := by
    obtain ⟨_, _, more⟩ := sequence_eq_ok_iff.mp made
    obtain ⟨_, _, same⟩ := sequence_eq_ok_iff.mp more
    cases same
    rfl
  obtain ⟨pictureTkhd, pictureMade, more⟩ := sequence_eq_ok_iff.mp made
  obtain ⟨soundTkhd, soundMade, same⟩ := sequence_eq_ok_iff.mp more
  cases same
  refine ⟨?_, rfl⟩
  change [(pictureTkhd.trackId, HandlerType.vide), (soundTkhd.trackId, HandlerType.soun)] = _
  rw [named pictureMade, named soundMade]
  rfl

/-- What a run hands out is nothing, or a file that is read as the movie that was announced and
the media of the first of the supported tags, up to those that are still queued. -/
theorem run_output_reads (reading : OverflowChecks)
    (calls : List (Call (environment checks shortRead)))
    (storable : ∀ tag ∈ fedTags calls, Storable tag) :
    results (Transmuxer.new.run calls).1 = [] ∨ ∃ emitted picture sound movie fragments,
      OutputFile reading checks (fedTags calls) (Transmuxer.new.run calls).2.tags emitted
        (output (results (Transmuxer.new.run calls).1)) picture sound movie fragments := by
  have sourced := Sourced.of_calls calls
  have progress := Progress.of_calls calls
  generalize results (Transmuxer.new.run calls).1 = given at sourced progress ⊢
  generalize (Transmuxer.new.run calls).2 = transmuxer at sourced progress ⊢
  generalize fedTags calls = fed at storable sourced progress ⊢
  cases progress with
  | waiting unset untouched => exact .inl rfl
  | @running _ emitted videoSettings audioSettings data segments ready queued timeline =>
      right
      rw [output_started]
      obtain ⟨video, audio, metadata, ⟨first, among, videoShown⟩, ⟨second, within, audioShown⟩,
        made⟩ := sourced.announced _ List.mem_cons_self
      obtain ⟨picture, pictureMade, more⟩ := sequence_eq_ok_iff.mp made
      obtain ⟨sound, soundMade, more⟩ := sequence_eq_ok_iff.mp more
      obtain ⟨_, _, more⟩ := sequence_eq_ok_iff.mp more
      obtain ⟨start, lifted, same⟩ := sequence_eq_ok_iff.mp more
      cases same
      obtain ⟨readable, small⟩ := (storable first among).video video videoShown
      have short := (storable second within).audio audio audioShown
      obtain ⟨movie, moved, head, _⟩ := initBytes_readsAll reading
        (Picture.holds_of_header pictureMade) soundMade (liftIo_eq_ok lifted) readable small
        (.inl short)
      have part : ∀ tag ∈ emitted, tag ∈ fed := fun tag member =>
        List.mem_of_mem_filter (show tag ∈ supportedTags fed by
          rw [queued]
          exact List.mem_append_left _ member)
      obtain ⟨fragments, behind, media⟩ := timeline.reads reading fun tag member shown found =>
        (storable tag (part tag member)).media shown.1 shown.2 found
      obtain ⟨tracks, fragmented⟩ := trackIds_initMoov moved
      refine ⟨emitted, picture, sound, movie, fragments, ?_⟩
      exact {
        pictureMade := ⟨first, among, _, video, videoShown, pictureMade⟩
        soundMade := ⟨second, within, audio, audioShown, soundMade⟩
        movieMade := ⟨_, moved⟩
        parsed := DynBox.demuxAll_eq_ok (head.append behind)
        tracks, fragmented
        split := queued
        media }

/-! A frame rate, both sequence headers, a packet of sound and a picture, with calls between
them.  The picture stays in the queue. -/

def smallCalls : List (Call (environment .on .stays)) :=
  [.addTag ⟨0, 0, .scriptData ⟨"onMetaData", [.object [("framerate", .number 0x403E000000000000)]]⟩⟩,
    .addTag ⟨0, 0, .video ⟨.keyframe, .avc (.sequenceHeader smallRecord)⟩⟩, .mux,
    .addTag ⟨0, 0, .audio ⟨⟨3⟩, .bit16, .stereo, .aac (.sequenceHeader [0x12, 0x10])⟩⟩, .mux,
    .addTag ⟨0, 0, .audio ⟨⟨3⟩, .bit16, .stereo, .aac (.raw [33, 16, 4])⟩⟩, .mux,
    .addTag ⟨40, 0, .video ⟨.keyframe, .avc (.nalu 0 [0, 0, 0, 1, 9])⟩⟩]

theorem smallCalls_storable : ∀ tag ∈ fedTags smallCalls, Storable tag := by
  have fed : fedTags smallCalls =
      [⟨0, 0, .scriptData ⟨"onMetaData", [.object [("framerate", .number 0x403E000000000000)]]⟩⟩,
        ⟨0, 0, .video ⟨.keyframe, .avc (.sequenceHeader smallRecord)⟩⟩,
        ⟨0, 0, .audio ⟨⟨3⟩, .bit16, .stereo, .aac (.sequenceHeader [0x12, 0x10])⟩⟩,
        ⟨0, 0, .audio ⟨⟨3⟩, .bit16, .stereo, .aac (.raw [33, 16, 4])⟩⟩,
        ⟨40, 0, .video ⟨.keyframe, .avc (.nalu 0 [0, 0, 0, 1, 9])⟩⟩] := rfl
  rw [fed]
  simp only [List.forall_mem_cons]
  refine ⟨?_, ?_, ?_, ?_, ?_, List.forall_mem_nil _⟩
  · exact storable_other rfl rfl rfl
  · exact storable_videoHeader rfl rfl rfl smallRecord_readable (by decide)
  · exact storable_audioHeader rfl rfl rfl (by decide)
  · exact storable_media rfl rfl rfl (by decide)
  · exact storable_media rfl rfl rfl (by decide)

/-- The run hands out a file with the sound in its only fragment. -/
theorem smallCalls_output_reads :
    results (Transmuxer.new.run smallCalls).1 ≠ [] ∧
      ∃ emitted picture sound movie fragments,
        OutputFile .on .on (fedTags smallCalls) (Transmuxer.new.run smallCalls).2.tags emitted
          (output (results (Transmuxer.new.run smallCalls).1)) picture sound movie fragments ∧
        delivered fragments = [([2], [33, 16, 4])] := by
  have two : (results (Transmuxer.new.run smallCalls).1).length = 2 := by decide +kernel
  have handed : results (Transmuxer.new.run smallCalls).1 ≠ [] := by
    intro none
    rw [none] at two
    cases two
  have queued : (supportedTags (Transmuxer.new.run smallCalls).2.tags).length = 1 := by
    decide +kernel
  obtain ⟨emitted, picture, sound, movie, fragments, file⟩ :=
    (run_output_reads .on smallCalls smallCalls_storable).resolve_left handed
  have lengths : 2 = emitted.length + 1 := by
    rw [← queued, ← List.length_append, ← file.split]
    rfl
  have first : emitted = (supportedTags (fedTags smallCalls)).take 1 := by
    rw [file.split, show 1 = emitted.length by omega, List.take_left]
  refine ⟨handed, emitted, picture, sound, movie, fragments, file, ?_⟩
  rw [file.media, first]
  rfl

end ScuffleVideo.Transmux
