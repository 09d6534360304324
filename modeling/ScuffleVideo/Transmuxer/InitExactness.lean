import ScuffleVideo.Mp4.ExactReading
import ScuffleVideo.Transmuxer.InitRoundTrip

/-!
# Init segments that come back

An init segment whose movie is read as it was built gives back each of its entries.  So the
record of the picture is one that can be read, the rate of the sound fits its field, and the
sizes of the descriptors around the audio data are the same both ways round.  These are all the
conditions there are.
-/

namespace ScuffleVideo.Transmux

open Wire Wire.Reader Flv Mp4
open DynBox (Frameable Nested Settles Typed everywhere_leaf settles_part)

variable {checks : OverflowChecks}

/-! ## The way down to an entry -/

section

variable (tkhd : Tkhd) (timescale : UInt32) (handler : HandlerType) (name : String)
  (entry : DynBox) (vmhd : Option Vmhd) (smhd : Option Smhd)

/-- The boxes of a track on the way to its entry. -/
def minfOf : Minf DynBox := .new (.url .new) (emptyTables entry) vmhd smhd

def mdiaOf : Mdia DynBox :=
  .new (.new 0 0 timescale 0) (.new handler name) (minfOf entry vmhd smhd)

theorem mdia_inside : .mdia (mdiaOf timescale handler name entry vmhd smhd) ∈
    DynBox.parts (.trak (trakOf tkhd timescale handler name entry vmhd smhd)) := by
  simp [DynBox.parts, trakOf, Trak.new, mdiaOf, minfOf]

theorem minf_inside : .minf (minfOf entry vmhd smhd) ∈
    DynBox.parts (.mdia (mdiaOf timescale handler name entry vmhd smhd)) := by
  simp [DynBox.parts, mdiaOf, Mdia.new]

theorem stbl_inside :
    .stbl (emptyTables entry) ∈ DynBox.parts (.minf (minfOf entry vmhd smhd)) := by
  simp [DynBox.parts, minfOf, Minf.new]

theorem stsd_inside : .stsd (.new [entry]) ∈ DynBox.parts (.stbl (emptyTables entry)) := by
  simp [DynBox.parts, emptyTables, Stbl.new]

theorem nested_entry :
    Nested (.trak (trakOf tkhd timescale handler name entry vmhd smhd)) entry := by
  have stsd : Nested (.stsd (.new [entry])) entry := .part List.mem_cons_self .self
  have stbl := Nested.part (stsd_inside entry) stsd
  have minf := Nested.part (stbl_inside entry vmhd smhd) stbl
  have mdia := Nested.part (minf_inside timescale handler name entry vmhd smhd) minf
  exact .part (mdia_inside tkhd timescale handler name entry vmhd smhd) mdia

theorem typed_trak :
    Typed (DynBox.parts (.trak (trakOf tkhd timescale handler name entry vmhd smhd)))
      [.tkhd, .mdia] := by
  simp only [DynBox.parts, trakOf, Trak.new, Option.toList_none, List.map_nil, List.append_nil]
  rfl

theorem typed_mdia :
    Typed (DynBox.parts (.mdia (mdiaOf timescale handler name entry vmhd smhd)))
      [.mdhd, .hdlr, .minf] := by
  simp only [DynBox.parts, mdiaOf, Mdia.new, List.append_nil]
  rfl

def minfKinds : List BoxKind :=
  vmhd.toList.map (fun _ => .vmhd) ++ smhd.toList.map (fun _ => .smhd) ++ [.dinf, .stbl]

theorem typed_minf :
    Typed (DynBox.parts (.minf (minfOf entry vmhd smhd))) (minfKinds vmhd smhd) := by
  simp only [DynBox.parts, minfOf, Minf.new, Option.toList_none, List.map_nil, List.append_nil]
  cases vmhd <;> cases smhd <;> rfl

theorem typed_stbl : Typed (DynBox.parts (.stbl (emptyTables entry)))
    [.stsd, .stts, .stsc, .stsz, .stco] := by
  simp only [DynBox.parts, emptyTables, Stbl.new, Option.toList_none, Option.toList_some,
    List.map_nil, List.map_cons, List.append_nil, List.cons_append, List.nil_append]
  rfl

variable {tkhd timescale handler name entry vmhd smhd}

/-- A track that comes back gives back its entry. -/
theorem settles_trak
    (frameable : Frameable (.trak (trakOf tkhd timescale handler name entry vmhd smhd)))
    (settles : Settles checks (.trak (trakOf tkhd timescale handler name entry vmhd smhd))) :
    Settles checks entry := by
  have mdiaInside := mdia_inside tkhd timescale handler name entry vmhd smhd
  have minfInside := minf_inside timescale handler name entry vmhd smhd
  have stblInside := stbl_inside entry vmhd smhd
  have stsdInside := stsd_inside entry
  have mdiaFrameable := frameable.part mdiaInside
  have minfFrameable := mdiaFrameable.part minfInside
  have stblFrameable := minfFrameable.part stblInside
  have stsdFrameable := stblFrameable.part stsdInside
  have apart : (minfKinds vmhd smhd).Nodup := by
    cases vmhd <;> cases smhd <;> simp [minfKinds]
  have mdia : Settles checks (.mdia (mdiaOf timescale handler name entry vmhd smhd)) :=
    settles_part .trak rfl (fun _ _ => DynBox.trak.inj) frameable settles (fun _ _ _ => rfl) rfl
      DynBox.collectTrak_sorts (typed_trak ..) (by decide) mdiaInside
  have minf : Settles checks (.minf (minfOf entry vmhd smhd)) :=
    settles_part .mdia rfl (fun _ _ => DynBox.mdia.inj) mdiaFrameable mdia (fun _ _ _ => rfl) rfl
      DynBox.collectMdia_sorts (typed_mdia ..) (by decide) minfInside
  have stbl : Settles checks (.stbl (emptyTables entry)) :=
    settles_part .minf rfl (fun _ _ => DynBox.minf.inj) minfFrameable minf (fun _ _ _ => rfl) rfl
      DynBox.collectMinf_sorts (typed_minf ..) apart stblInside
  have stsd : Settles checks (.stsd (.new [entry])) :=
    settles_part .stbl rfl (fun _ _ => DynBox.stbl.inj) stblFrameable stbl (fun _ _ _ => rfl) rfl
      DynBox.collectStbl_sorts (typed_stbl ..) (by decide) stsdInside
  exact DynBox.settles_entry rfl (Nat.one_lt_two_pow (by decide)) stsdFrameable stsd entry
    (List.mem_singleton_self entry)

end

section

variable {pictureTkhd soundTkhd : Tkhd} {timescale sampleRate : UInt32} {picture sound : DynBox}

def pictureTrak (tkhd : Tkhd) (timescale : UInt32) (entry : DynBox) : Trak DynBox :=
  trakOf tkhd timescale .vide "VideoHandler" entry (some .new) none

def soundTrak (tkhd : Tkhd) (sampleRate : UInt32) (entry : DynBox) : Trak DynBox :=
  trakOf tkhd sampleRate .soun "SoundHandler" entry none (some .new)

theorem parts_movie :
    DynBox.parts (.moov (movieOf pictureTkhd soundTkhd timescale sampleRate picture sound)) =
      [.mvhd (.new 0 0 1000 0 1), .trak (pictureTrak pictureTkhd timescale picture),
        .trak (soundTrak soundTkhd sampleRate sound), .mvex (.new [.new 1, .new 2] none)] := by
  simp only [DynBox.parts, movieOf, Moov.new, List.map_cons, List.map_nil, Option.toList_some,
    List.append_nil, List.cons_append, List.nil_append]
  rfl

theorem traks_inside :
    .trak (pictureTrak pictureTkhd timescale picture) ∈ DynBox.parts
        (.moov (movieOf pictureTkhd soundTkhd timescale sampleRate picture sound)) ∧
      .trak (soundTrak soundTkhd sampleRate sound) ∈ DynBox.parts
        (.moov (movieOf pictureTkhd soundTkhd timescale sampleRate picture sound)) := by
  rw [parts_movie]
  simp

theorem nested_movie :
    Nested (.moov (movieOf pictureTkhd soundTkhd timescale sampleRate picture sound)) picture ∧
      Nested (.moov (movieOf pictureTkhd soundTkhd timescale sampleRate picture sound)) sound :=
  ⟨.part traks_inside.1 (nested_entry ..), .part traks_inside.2 (nested_entry ..)⟩

/-- A movie that comes back gives back the entries of both tracks. -/
theorem settles_movie
    (frameable : Frameable
      (.moov (movieOf pictureTkhd soundTkhd timescale sampleRate picture sound)))
    (settles : Settles checks
      (.moov (movieOf pictureTkhd soundTkhd timescale sampleRate picture sound))) :
    Settles checks picture ∧ Settles checks sound := by
  obtain ⟨found, parses, sorted⟩ := DynBox.found_of_collected .moov rfl (fun _ _ => DynBox.moov.inj)
    frameable settles (fun _ _ _ => rfl) rfl
  obtain ⟨_, _, same⟩ := sequence_eq_ok_iff.mp sorted
  have back : found.filterMap DynBox.asTrak =
      [pictureTrak pictureTkhd timescale picture, soundTrak soundTkhd sampleRate sound] :=
    congrArg Moov.traks (Except.ok.inj same)
  rw [parts_movie] at parses
  have typed : Typed [.mvhd (.new 0 0 1000 0 1), .trak (pictureTrak pictureTkhd timescale picture),
      .trak (soundTrak soundTkhd sampleRate sound), .mvex (.new [.new 1, .new 2] none)]
      [.mvhd, .trak, .trak, .mvex] := rfl
  have traks := DynBox.parses_traks parses fun box member => typed.kind_eq member
  rw [back] at traks
  cases traks with
  | cons pictureParses traks =>
      cases traks with
      | cons soundParses _ =>
          exact ⟨settles_trak (frameable.part traks_inside.1) pictureParses,
            settles_trak (frameable.part traks_inside.2) soundParses⟩

end

/-! ## What the entries say -/

section

variable {shortRead : Amf0.ShortRead} {header : VideoSequenceHeader (codecs shortRead)}
  {picture : Picture} (holds : picture.Holds header)

include holds in
/-- The box of the record is the last one in the entry of a picture. -/
theorem Picture.exists_record : ∃ record, Nested picture.entry record ∧
    match header with
    | .avc (config : H264.AVCDecoderConfigurationRecord) => record = .avcC (.new config)
    | .hevc (config : H265.HEVCDecoderConfigurationRecord) => record = .hvcC (.new config)
    | .av1 (config : Av1.AV1CodecConfigurationRecord) => record = .av1C (.new config) := by
  cases holds with
  | avc config sps brand entry =>
      refine ⟨_, .part ?_ .self, rfl⟩
      rw [entry, parts_avc]
      exact List.mem_append_right _ List.mem_cons_self
  | hevc config sps brand entry =>
      refine ⟨_, .part ?_ .self, rfl⟩
      rw [entry, parts_hevc]
      exact List.mem_append_right _ List.mem_cons_self
  | av1 config sequence brand entry =>
      refine ⟨_, .part ?_ .self, rfl⟩
      rw [entry, parts_av1]
      exact List.mem_append_right _ List.mem_cons_self

theorem fits_of_returned_av1C {depth : Nat} {config : Av1.AV1CodecConfigurationRecord}
    (read : Returned (DynBox.demuxWithin checks depth) (.av1C (.new config))) : config.Fits := by
  obtain ⟨nested, data, parsed⟩ := DynBox.ofKind_of_returned read rfl
  obtain ⟨box, boxRead, same⟩ := sequence_eq_ok_iff.mp parsed
  cases same
  obtain ⟨record, recordRead, same⟩ := parse_of_wrapped (Av1C.mk ⟨Av1C.name⟩) boxRead
  cases same
  exact (Av1.AV1CodecConfigurationRecord.fields_of_demux recordRead).1

include holds in
/-- The record of a picture whose entry was read can be read. -/
theorem Picture.readable_of_read {depth : Nat} {box : DynBox} {bytes : Bytes}
    (read : Returned (DynBox.demuxWithin checks depth) box) (written : DynBox.mux box = .ok bytes)
    (short : DynBox.size box ≤ u32Max) (nested : Nested box picture.entry) : header.Readable := by
  obtain ⟨record, inside, same⟩ := Picture.exists_record holds
  have within := nested.trans inside
  cases header with
  | avc config =>
      cases same
      exact (DynBox.fits_of_read read written short within id).2
  | hevc config =>
      cases same
      exact (DynBox.fits_of_read read written short within id).2
  | av1 config =>
      cases same
      obtain ⟨_, _, returned, _⟩ := DynBox.returned_of_nested read written short within
      exact fits_of_returned_av1C returned

end

section

variable {channels sampleSize : UInt16} {sampleRate : UInt32} {data : Bytes}

/-- An entry of sound that comes back has data of such a size. -/
theorem lengths_of_settles (carried : data.length < 2 ^ 24) (small : sampleRate.toNat < 2 ^ 16)
    (frameable : Frameable (Codecs.Aac.entry channels sampleSize sampleRate data))
    (settles : Settles checks (Codecs.Aac.entry channels sampleSize sampleRate data)) :
    data.length ≤ 103 ∨ data.length = 105 := by
  have esds : Settles checks (.esds (.new (Codecs.Aac.descriptor data))) := by
    obtain ⟨own, ownWritten⟩ := DynBox.Parses.written settles
    cases DynBox.written_ok ownWritten
    exact DynBox.settles_entered .mp4a rfl (fun _ _ => DynBox.mp4a.inj) frameable settles
      (fun _ _ _ => rfl) ownWritten (SampleEntry.demux_reads (AudioSampleEntry.demux_reads small))
      (DynBox.collectMp4a_sorts small) (show Typed _ [.esds] from rfl) (by decide)
      List.mem_cons_self
  obtain ⟨own, ownWritten, back⟩ :=
    DynBox.demux_of_settles .esds rfl (fun _ _ => DynBox.esds.inj) esds (fun _ _ _ => rfl) rfl
  obtain ⟨_, _, payload⟩ := sequence_eq_ok_iff.mp ownWritten
  exact (palindromic_descriptor_iff carried).mp
    (Esds.palindromic_of_demux (descriptor_wellFormed carried) rfl payload back)

end

/-! ## The segment -/

section

variable {shortRead : Amf0.ShortRead}

/-- The bytes of a segment are read as the boxes that were made of both sequence headers. -/
structure ReadsBack (reading checks : OverflowChecks)
    (video : VideoSequenceHeader (codecs shortRead)) (audio : AudioSequenceHeader)
    (metadata : Option Metadata) (data : Bytes) (picture : Picture) (sound : Sound)
    (movie : Moov DynBox) : Prop where
  pictureMade : Picture.ofHeader checks (Rates.ofMetadata metadata).framerate video = .ok picture
  soundMade : Sound.ofHeader audio = .ok sound
  movieMade : initMoov checks picture sound (timescaleOf picture.framerate) = .ok movie
  pictureHolds : picture.Holds video
  soundHolds : sound.Holds audio
  parsed : DynBox.demuxAll reading data = .ok [.ftyp (initFtyp picture), .moov movie]

variable {reading : OverflowChecks} {video : VideoSequenceHeader (codecs shortRead)}
  {audio : AudioSequenceHeader} {metadata : Option Metadata} {data : Bytes}
  {picture : Picture} {sound : Sound}

theorem initBytes_of_initSegment {videoSettings : VideoSettings VideoCodec}
    {audioSettings : AudioSettings AudioCodec}
    (made : initSegment checks video audio metadata = .ok (data, videoSettings, audioSettings)) :
    ∃ picture sound,
      Picture.ofHeader checks (Rates.ofMetadata metadata).framerate video = .ok picture ∧
      Sound.ofHeader audio = .ok sound ∧
      initBytes checks picture sound (timescaleOf picture.framerate) = .ok data := by
  obtain ⟨picture, pictureMade, more⟩ := sequence_eq_ok_iff.mp made
  obtain ⟨sound, soundMade, more⟩ := sequence_eq_ok_iff.mp more
  obtain ⟨_, _, more⟩ := sequence_eq_ok_iff.mp more
  obtain ⟨_, lifted, same⟩ := sequence_eq_ok_iff.mp more
  cases same
  exact ⟨picture, sound, pictureMade, soundMade, liftIo_eq_ok lifted⟩

theorem frameable_movie {pictureTkhd soundTkhd : Tkhd} (timescale sampleRate : UInt32)
    (pictureNamed : pictureTkhd.header.header = ⟨Tkhd.name⟩)
    (soundNamed : soundTkhd.header.header = ⟨Tkhd.name⟩) (pictureHolds : picture.Holds video)
    (soundMade : Sound.ofHeader audio = .ok sound) (videoCarried : video.size < 2 ^ 24)
    (audioCarried : audio.bytes.length < 2 ^ 24) :
    Frameable (.moov (movieOf pictureTkhd soundTkhd timescale sampleRate picture.entry
      sound.entry)) where
  honest := @everywhere_movie (fun box => ¬DynBox.Overstated box) (fun _ _ honest => honest) _ _ _ _
    pictureNamed soundNamed timescale sampleRate (Picture.entry_honest pictureHolds)
    (Sound.entry_honest soundMade)
  short := by
    have pictureSize := Picture.size_entry_le pictureHolds
    have soundSize := Sound.size_entry_le soundMade audioCarried
    have whole := size_movie_le pictureTkhd soundTkhd timescale sampleRate picture.entry
      sound.entry
    unfold u32Max
    omega

/-- What a segment that comes back says of its headers. -/
theorem kept_of_parsed {timescale : UInt32} {movie : Moov DynBox}
    (pictureHolds : picture.Holds video) (soundMade : Sound.ofHeader audio = .ok sound)
    (built : initBytes checks picture sound timescale = .ok data)
    (moved : initMoov checks picture sound timescale = .ok movie)
    (videoCarried : video.size < 2 ^ 24) (audioCarried : audio.bytes.length < 2 ^ 24)
    (parsed : DynBox.demuxAll reading data = .ok [.ftyp (initFtyp picture), .moov movie]) :
    video.Readable ∧ sound.sampleRate.toNat < 2 ^ 16 ∧
      (audio.bytes.length ≤ 103 ∨ audio.bytes.length = 105) := by
  obtain ⟨pictureTkhd, soundTkhd, found, pictureNamed, soundNamed, same, made, written⟩ :=
    muxAll_of_initBytes built
  cases moved.symm.trans made
  subst same
  have frameable := frameable_movie timescale sound.sampleRate pictureNamed soundNamed pictureHolds
    soundMade videoCarried audioCarried
  obtain ⟨nestedPicture, nestedSound⟩ := @nested_movie pictureTkhd soundTkhd timescale
    sound.sampleRate picture.entry sound.entry
  have inside : DynBox.moov (movieOf pictureTkhd soundTkhd timescale sound.sampleRate picture.entry
      sound.entry) ∈ [.ftyp (initFtyp picture), .moov _] := List.mem_cons_of_mem _ List.mem_cons_self
  obtain ⟨moov, moovWritten, _⟩ := DynBox.muxAll_mem written inside
  have returned :=
    ((Yields.returned (DynBox.demux reading)).whileRemaining IoFault.unfinished _).parse parsed
  obtain ⟨depth, read⟩ := DynBox.returned_of_demux (returned _ inside)
  have readable := Picture.readable_of_read pictureHolds read moovWritten frameable.short
    nestedPicture
  obtain ⟨config, channels, sampleSize, _, _, _, rate, entry⟩ := Sound.holds_of_header soundMade
  rw [← rate] at entry
  have small : sound.sampleRate.toNat < 2 ^ 16 := by
    have exactly : ¬DynBox.Lossy sound.entry := by
      rw [entry]
      exact id
    have fits := DynBox.fits_of_read read moovWritten frameable.short nestedSound exactly
    rw [entry] at fits
    exact fits.2
  have ftyp : Frameable (.ftyp (initFtyp picture)) :=
    ⟨everywhere_leaf rfl id, show 32 ≤ u32Max by decide⟩
  have settles := DynBox.settles_of_demuxAll
    (List.forall_mem_cons.mpr ⟨ftyp, List.forall_mem_singleton.mpr frameable⟩) written parsed
    _ inside
  have entrySettles := (settles_movie frameable settles).2
  have entryFrameable := frameable.nested nestedSound
  rw [entry] at entrySettles entryFrameable
  exact ⟨readable, small, lengths_of_settles audioCarried small entryFrameable entrySettles⟩

/-- The segment of headers that a tag can carry comes back exactly if the record of the picture
can be read and tells nothing that is never written, the rate of the sound fits the upper half of
its field, and the data of the sound is of a size that is read as it is written. -/
theorem initSegment_readsBack_iff (reading : OverflowChecks)
    {videoSettings : VideoSettings VideoCodec} {audioSettings : AudioSettings AudioCodec}
    (made : initSegment checks video audio metadata = .ok (data, videoSettings, audioSettings))
    (videoCarried : video.size < 2 ^ 24) (audioCarried : audio.bytes.length < 2 ^ 24) :
    (∃ picture sound movie,
      ReadsBack reading checks video audio metadata data picture sound movie) ↔
      video.Readable ∧ video.Plain ∧
        (∀ config, Aac.PartialAudioSpecificConfig.parse audio.bytes = .ok config →
          config.samplingFrequency.toNat < 2 ^ 16) ∧
        (audio.bytes.length ≤ 103 ∨ audio.bytes.length = 105) := by
  obtain ⟨picture, sound, pictureMade, soundMade, built⟩ := initBytes_of_initSegment made
  have pictureHolds := Picture.holds_of_header pictureMade
  have soundHolds := Sound.holds_of_header soundMade
  obtain ⟨config, _, _, configRead, _, _, rate, _⟩ := Sound.holds_of_header soundMade
  have small : video.size + 3000 ≤ u32Max := by
    unfold u32Max
    omega
  constructor
  · rintro ⟨otherPicture, otherSound, movie, back⟩
    cases pictureMade.symm.trans back.pictureMade
    cases soundMade.symm.trans back.soundMade
    obtain ⟨readable, fits, lengths⟩ := kept_of_parsed pictureHolds soundMade built back.movieMade
      videoCarried audioCarried back.parsed
    obtain ⟨_, storedMade, reads, same⟩ := initBytes_readsAll reading pictureHolds soundMade
      built readable small lengths
    cases storedMade.symm.trans back.movieMade
    have boxes := Except.ok.inj ((DynBox.demuxAll_eq_ok reads).symm.trans back.parsed)
    have kept : storedMoov movie = movie :=
      DynBox.moov.inj (List.cons.inj (List.cons.inj boxes).2).1
    refine ⟨readable, (same.mp kept).1, fun other otherRead => ?_, lengths⟩
    cases configRead.symm.trans otherRead
    rw [← rate]
    exact fits
  · rintro ⟨readable, plain, fits, lengths⟩
    obtain ⟨movie, movieMade, reads, same⟩ := initBytes_readsAll reading pictureHolds soundMade
      built readable small lengths
    have kept : storedMoov movie = movie := by
      refine same.mpr ⟨plain, ?_⟩
      rw [rate]
      exact fits config configRead
    rw [kept] at reads
    exact ⟨picture, sound, movie, pictureMade, soundMade, movieMade, pictureHolds, soundHolds,
      DynBox.demuxAll_eq_ok reads⟩

end

/-- Thirty pictures in a second. -/
def smallMetadata : Option Metadata := some [("framerate", .number 0x403E000000000000)]

theorem initSegment_readsBack_small : ∃ data videoSettings audioSettings,
    initSegment .on smallVideo smallAudio smallMetadata =
        .ok (data, videoSettings, audioSettings) ∧
      ∃ picture sound movie,
        ReadsBack .on .on smallVideo smallAudio smallMetadata data picture sound movie := by
  have finishes : (initSegment .on smallVideo smallAudio smallMetadata).isOk = true := by
    decide +kernel
  have rate : (Aac.PartialAudioSpecificConfig.parse smallAudio.bytes).toOption.map
      Aac.PartialAudioSpecificConfig.samplingFrequency = some 44100 := by decide +kernel
  cases made : initSegment .on smallVideo smallAudio smallMetadata with
  | error fault =>
      rw [made] at finishes
      cases finishes
  | ok settings =>
      obtain ⟨data, videoSettings, audioSettings⟩ := settings
      refine ⟨data, videoSettings, audioSettings, rfl,
        (initSegment_readsBack_iff .on made (by decide) (by decide)).mpr
          ⟨smallRecord_readable, trivial, fun config read => ?_, by decide⟩⟩
      rw [read] at rate
      rw [Option.some.inj rate]
      decide

/-- Sound of 96000 Hz, which is more than the upper half of the field holds. -/
def highAudio : AudioSequenceHeader := ⟨.bit16, .stereo, .aac [0x10, 0x10]⟩

theorem highAudio_lost : ∃ data videoSettings audioSettings,
    initSegment .on smallVideo highAudio smallMetadata =
        .ok (data, videoSettings, audioSettings) ∧
      ¬ ∃ picture sound movie,
        ReadsBack .on .on smallVideo highAudio smallMetadata data picture sound movie := by
  have finishes : (initSegment .on smallVideo highAudio smallMetadata).isOk = true := by
    decide +kernel
  have rate : (Sound.ofHeader highAudio).toOption.map Sound.sampleRate = some 96000 := by
    decide +kernel
  cases made : initSegment .on smallVideo highAudio smallMetadata with
  | error fault =>
      rw [made] at finishes
      cases finishes
  | ok settings =>
      obtain ⟨data, videoSettings, audioSettings⟩ := settings
      refine ⟨data, videoSettings, audioSettings, rfl, ?_⟩
      rintro ⟨picture, sound, movie, back⟩
      obtain ⟨otherPicture, otherSound, pictureMade, soundMade, built⟩ :=
        initBytes_of_initSegment made
      cases pictureMade.symm.trans back.pictureMade
      cases soundMade.symm.trans back.soundMade
      have small := (kept_of_parsed back.pictureHolds soundMade built back.movieMade (by decide)
        (by decide) back.parsed).2.1
      rw [soundMade] at rate
      rw [show sound.sampleRate = 96000 from Option.some.inj rate] at small
      exact absurd small (by decide)

end ScuffleVideo.Transmux
