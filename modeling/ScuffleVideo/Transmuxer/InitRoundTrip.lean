import ScuffleVideo.Transmuxer.InitTree
import ScuffleVideo.Wire.Palindromes

/-!
# Reading init segments back

The entries that the codecs make come back from their bytes up to what is never written of them.
So an init segment is read as the file type and the movie that were built, and exactly as they
were built if the sample rate fits the upper half of its field and the record of AV1 tells no
range of colours.
-/

namespace ScuffleVideo.Transmux

open Wire Wire.Reader Flv Mp4
open DynBox (Everywhere Recoverable everywhere_iff everywhere_leaf recoverable_iff
  recoverable_leaf)

/-! ## Entries -/

section

variable {holds : DynBox → Prop}
  (plain : ∀ box, DynBox.Fits box → ¬DynBox.Overstated box → holds box)

include plain

/-- An entry of a picture: its description, and the record of the codec behind it. -/
theorem everywhere_visual {box record : DynBox} {width height : UInt64} {colr : Option Colr}
    (inside : DynBox.parts box = (visualEntry width height colr).extension.parts ++ [record])
    (own : holds box) (described : ∀ box ∈ colr, Everywhere holds (.colr box))
    (back : Everywhere holds record) : Everywhere holds box := by
  have pasp : Everywhere holds (.pasp .new) := everywhere_leaf rfl (plain _ rfl id)
  refine (everywhere_iff box).mpr ⟨own, ?_⟩
  rw [inside]
  simp only [visualEntry, SampleEntry.new, VisualSampleEntry.new, VisualSampleEntry.parts,
    Option.toList_none, Option.toList_some, List.map_nil, List.map_cons, List.nil_append,
    List.forall_mem_append, List.forall_mem_singleton, List.forall_mem_map, Option.mem_toList]
  exact ⟨⟨pasp, described⟩, back⟩

theorem everywhere_colr {α : Type} {primaries transfer matrix : α → UInt8} {range : α → Bool}
    (color : Option α) : ∀ colr ∈ color.map fun value =>
      colrOf (primaries value) (transfer value) (matrix value) (range value),
      Everywhere holds (.colr colr) := by
  intro colr member
  obtain ⟨value, _, rfl⟩ := Option.mem_map.mp member
  exact everywhere_leaf rfl (plain _ ⟨rfl, trivial⟩ id)

end

variable {shortRead : Amf0.ShortRead}

namespace VideoSequenceHeader

/-- The record of the codec holds what can be read of one. -/
def Readable : VideoSequenceHeader (codecs shortRead) → Prop
  | .avc (config : H264.AVCDecoderConfigurationRecord) => config.Readable
  | .hevc (config : H265.HEVCDecoderConfigurationRecord) => config.Readable
  | .av1 (config : Av1.AV1CodecConfigurationRecord) => config.Fits

/-- The size of the record of the codec. -/
def size : VideoSequenceHeader (codecs shortRead) → Nat
  | .avc (config : H264.AVCDecoderConfigurationRecord) => config.size
  | .hevc (config : H265.HEVCDecoderConfigurationRecord) => config.size
  | .av1 (config : Av1.AV1CodecConfigurationRecord) => config.size

/-- The record tells nothing that is never written. -/
def Plain : VideoSequenceHeader (codecs shortRead) → Prop
  | .av1 (config : Av1.AV1CodecConfigurationRecord) => config.hdrWcgIdc = 0
  | _ => True

end VideoSequenceHeader

/-- The entry of a picture is the one of its codec, around the record. -/
inductive Picture.Holds (picture : Picture) : VideoSequenceHeader (codecs shortRead) → Prop
  | avc (config : H264.AVCDecoderConfigurationRecord) (sps : H264.Sps)
      (brand : picture.brand = .avc1) (entry : picture.entry = Codecs.Avc.entry config sps) :
      Holds picture (.avc config)
  | hevc (config : H265.HEVCDecoderConfigurationRecord) (sps : H265.Sps)
      (brand : picture.brand = .hev1) (entry : picture.entry = Codecs.Hevc.entry config sps) :
      Holds picture (.hevc config)
  | av1 (config : Av1.AV1CodecConfigurationRecord) (sequence : Av1.SequenceHeaderObu)
      (brand : picture.brand = .av01) (entry : picture.entry = Codecs.Av1.entry config sequence) :
      Holds picture (.av1 config)

theorem Picture.holds_of_header {checks : OverflowChecks} {told : Float}
    {header : VideoSequenceHeader (codecs shortRead)} {picture : Picture}
    (made : Picture.ofHeader checks told header = .ok picture) : picture.Holds header := by
  cases header with
  | avc config =>
      obtain ⟨⟨entry, sps⟩, built, same⟩ := sequence_eq_ok_iff.mp made
      cases same
      unfold Codecs.Avc.stsdEntry at built
      split at built
      · cases built
      · obtain ⟨sps, _, same⟩ := sequence_eq_ok_iff.mp built
        cases same
        exact .avc config sps rfl rfl
  | hevc config =>
      obtain ⟨⟨entry, sps⟩, built, same⟩ := sequence_eq_ok_iff.mp made
      cases same
      unfold Codecs.Hevc.stsdEntry at built
      split at built
      · cases built
      · obtain ⟨sps, _, same⟩ := sequence_eq_ok_iff.mp built
        cases same
        exact .hevc config sps rfl rfl
  | av1 config =>
      obtain ⟨⟨entry, sequence⟩, built, more⟩ := sequence_eq_ok_iff.mp made
      obtain ⟨point, _, same⟩ := sequence_eq_ok_iff.mp more
      cases same
      obtain ⟨⟨header, data⟩, _, more⟩ := sequence_eq_ok_iff.mp built
      dsimp only at more
      split at more
      · cases more
      · obtain ⟨sequence, _, same⟩ := sequence_eq_ok_iff.mp more
        cases same
        exact .av1 config sequence rfl rfl

theorem parts_avc (config : H264.AVCDecoderConfigurationRecord) (sps : H264.Sps) :
    (Codecs.Avc.entry config sps).parts =
      (visualEntry sps.width sps.height (sps.colorConfig.map Codecs.Avc.colr)).extension.parts ++
        [.avcC (.new config)] := by
  simp only [Codecs.Avc.entry, Avc1.new, DynBox.parts, Option.toList_none, List.map_nil,
    List.append_nil]

theorem parts_hevc (config : H265.HEVCDecoderConfigurationRecord) (sps : H265.Sps) :
    (Codecs.Hevc.entry config sps).parts =
      (visualEntry sps.width sps.height (sps.colorConfig.map Codecs.Hevc.colr)).extension.parts ++
        [.hvcC (.new config)] := by
  simp only [Codecs.Hevc.entry, Hev1.new, DynBox.parts, Option.toList_none, List.map_nil,
    List.append_nil]

theorem parts_av1 (config : Av1.AV1CodecConfigurationRecord) (sequence : Av1.SequenceHeaderObu) :
    (Codecs.Av1.entry config sequence).parts =
      (visualEntry sequence.maxFrameWidth sequence.maxFrameHeight
        (some (Codecs.Av1.colr sequence.colorConfig))).extension.parts ++
        [.av1C (.new config)] := by
  simp only [Codecs.Av1.entry, Av01.new, DynBox.parts, Option.toList_none, List.map_nil,
    List.append_nil]

section

variable {header : VideoSequenceHeader (codecs shortRead)} {picture : Picture}
  (holds : picture.Holds header)

/-- What holds of boxes that fit holds everywhere in an entry, if it does of the entry and of
the box of its record. -/
theorem Picture.everywhere_entry {good : DynBox → Prop}
    (plain : ∀ box, DynBox.Fits box → ¬DynBox.Overstated box → good box) :
    (∀ (config : H264.AVCDecoderConfigurationRecord) (sps : H264.Sps),
      good (.avcC (.new config)) → Everywhere good (Codecs.Avc.entry config sps)) ∧
    (∀ (config : H265.HEVCDecoderConfigurationRecord) (sps : H265.Sps),
      good (.hvcC (.new config)) → Everywhere good (Codecs.Hevc.entry config sps)) ∧
    (∀ (config : Av1.AV1CodecConfigurationRecord) (sequence : Av1.SequenceHeaderObu),
      good (.av1C (.new config)) → Everywhere good (Codecs.Av1.entry config sequence)) := by
  refine ⟨fun config sps record => ?_, fun config sps record => ?_,
    fun config sequence record => ?_⟩
  · exact everywhere_visual plain (parts_avc config sps) (plain _ (sorts_alone rfl) id)
      (everywhere_colr plain sps.colorConfig) (everywhere_leaf rfl record)
  · exact everywhere_visual plain (parts_hevc config sps) (plain _ (sorts_alone rfl) id)
      (everywhere_colr plain sps.colorConfig) (everywhere_leaf rfl record)
  · exact everywhere_visual plain (parts_av1 config sequence) (plain _ (sorts_alone rfl) id)
      (everywhere_colr plain (some sequence.colorConfig)) (everywhere_leaf rfl record)

include holds in
/-- An entry comes back if its record can be read, but for what is never written of it. -/
theorem Picture.entry_recoverable (readable : header.Readable) :
    Recoverable (storedEntry picture.entry) := by
  obtain ⟨avc, hevc, av1⟩ := @Picture.everywhere_entry
    (fun box => DynBox.Fits box ∧ ¬DynBox.Overstated box) fun _ fits honest => ⟨fits, honest⟩
  cases holds with
  | avc config sps brand entry =>
      rw [entry]
      exact avc config sps ⟨⟨rfl, readable⟩, id⟩
  | hevc config sps brand entry =>
      rw [entry]
      exact hevc config sps ⟨⟨rfl, readable⟩, id⟩
  | av1 config sequence brand entry =>
      have fits : config.Fits := readable
      rw [entry]
      exact av1 { config with hdrWcgIdc := 0 } sequence ⟨⟨rfl, ⟨fits.seqProfile,
        fits.seqLevelIdx0, fits.chromaSamplePosition, fits.delay⟩, rfl⟩, id⟩

include holds in
theorem Picture.entry_honest : DynBox.Honest picture.entry := by
  obtain ⟨avc, hevc, av1⟩ := @Picture.everywhere_entry (fun box => ¬DynBox.Overstated box)
    fun _ _ honest => honest
  cases holds with
  | avc config sps brand entry => exact entry ▸ avc config sps id
  | hevc config sps brand entry => exact entry ▸ hevc config sps id
  | av1 config sequence brand entry => exact entry ▸ av1 config sequence id

theorem size_visual_le {α : Type} (width height : UInt64) {box : α → Colr}
    (short : ∀ color, BoxType.size (box color) = 19) (color : Option α) :
    (visualEntry width height (color.map box)).size ≤ 140 := by
  have pasp : sizeOption (some Pasp.new) = 16 := rfl
  have colr : sizeOption (color.map box) ≤ 19 := by
    cases color with
    | none => exact Nat.zero_le _
    | some color => exact Nat.le_of_eq (short color)
  change 6 + 2 + (2 + 2 + 4 + 4 + 4 + 2 + 2 + 4 + 4 + 4 + 2 + 32 + 2 + 2 + 0 +
    sizeOption (some Pasp.new) + sizeOption (color.map box)) ≤ 140
  omega

include holds in
/-- Only the record makes an entry long. -/
theorem Picture.size_entry_le : DynBox.size picture.entry ≤ header.size + 200 := by
  cases holds with
  | avc config sps brand entry =>
      have visual := @size_visual_le _ sps.width sps.height Codecs.Avc.colr (fun _ => rfl)
        sps.colorConfig
      have whole := boxSize_le (DynBox.primitiveSizeAvc1 (.new (visualEntry sps.width sps.height
        (sps.colorConfig.map Codecs.Avc.colr)) (.new config) none))
      have record : BoxType.size (AvcC.new config) ≤ config.size + 16 := boxSize_le config.size
      rw [entry, Codecs.Avc.entry, DynBox.size]
      simp only [Avc1.new, DynBox.primitiveSizeAvc1, sizeOption, DynBox.sizes] at whole ⊢
      change _ ≤ config.size + 200
      omega
  | hevc config sps brand entry =>
      have visual := @size_visual_le _ sps.width sps.height Codecs.Hevc.colr (fun _ => rfl)
        sps.colorConfig
      have whole := boxSize_le (DynBox.primitiveSizeHev1 (.new (visualEntry sps.width sps.height
        (sps.colorConfig.map Codecs.Hevc.colr)) (.new config) none))
      have record : BoxType.size (HvcC.new config) ≤ config.size + 16 := boxSize_le config.size
      rw [entry, Codecs.Hevc.entry, DynBox.size]
      simp only [Hev1.new, DynBox.primitiveSizeHev1, sizeOption, DynBox.sizes] at whole ⊢
      change _ ≤ config.size + 200
      omega
  | av1 config sequence brand entry =>
      have visual := @size_visual_le _ sequence.maxFrameWidth sequence.maxFrameHeight
        Codecs.Av1.colr (fun _ => rfl) (some sequence.colorConfig)
      have whole := boxSize_le (DynBox.primitiveSizeAv01 (.new (visualEntry sequence.maxFrameWidth
        sequence.maxFrameHeight (some (Codecs.Av1.colr sequence.colorConfig))) (.new config) none))
      have record : BoxType.size (Av1C.new config) ≤ config.size + 16 := boxSize_le config.size
      rw [entry, Codecs.Av1.entry, DynBox.size]
      simp only [Av01.new, DynBox.primitiveSizeAv01, sizeOption, DynBox.sizes] at whole ⊢
      change _ ≤ config.size + 200
      rw [Option.map_some] at visual
      omega

include holds in
/-- The entry is as it was built unless the record tells what is never written. -/
theorem Picture.storedEntry_eq_iff : storedEntry picture.entry = picture.entry ↔ header.Plain := by
  cases holds with
  | avc config sps brand entry =>
      rw [entry]
      exact iff_of_true rfl trivial
  | hevc config sps brand entry =>
      rw [entry]
      exact iff_of_true rfl trivial
  | av1 config sequence brand entry =>
      have kept : storedEntry picture.entry =
          Codecs.Av1.entry { config with hdrWcgIdc := 0 } sequence := by
        rw [entry]
        rfl
      rw [kept, entry]
      constructor
      · intro same
        have records := Av01.mk.inj (DynBox.av01.inj same)
        exact (congrArg Av1.AV1CodecConfigurationRecord.hdrWcgIdc
          (congrArg Av1C.av1Config records.2.2.1)).symm
      · intro clear
        have same : { config with hdrWcgIdc := 0 } = config := by
          obtain ⟨_, _, _, _, _, _, _, _, _, _, _, _⟩ := config
          cases clear
          rfl
        rw [same]

include holds in
theorem Picture.brand_canonical : picture.brand.Canonical := by
  cases holds with
  | avc config sps brand entry => rw [brand]; rfl
  | hevc config sps brand entry => rw [brand]; rfl
  | av1 config sequence brand entry => rw [brand]; rfl

end

/-! ## The entry of the sound -/

theorem liftIo_eq_ok {α : Type} {result : Except IoFault α} {value : α}
    (lifted : liftIo result = .ok value) : result = .ok value := by
  cases result with
  | error fault => cases lifted
  | ok found =>
      cases lifted
      rfl

theorem descriptorSize_bounds {size : Nat} (small : size < 2 ^ 28) :
    size + 2 ≤ descriptorSize size ∧ descriptorSize size ≤ size + 5 := by
  have most := @bytesRequired_le 5 size 4 (by omega) small (by decide)
  have least : 1 ≤ bytesRequired 5 (UInt32.ofNat size) := by
    unfold bytesRequired
    split <;> omega
  rw [descriptorSize]
  omega

theorem descriptorSize_eq {size : Nat} (small : size < 128) : descriptorSize size = size + 2 := by
  have most := @bytesRequired_le 5 size 1 (by omega) small (Nat.le_refl 1)
  have bounds := @descriptorSize_bounds size (by omega)
  rw [descriptorSize] at bounds ⊢
  omega

/-- The size of the descriptor of the decoder around so many bytes, and of the stream around
that. -/
def decoderSize (length : Nat) : Nat := 13 + descriptorSize length

def streamSize (length : Nat) : Nat := 7 + descriptorSize (decoderSize length)

theorem decoderSize_bounds {length : Nat} (carried : length < 2 ^ 24) :
    length + 15 ≤ decoderSize length ∧ decoderSize length ≤ length + 18 := by
  have inner := @descriptorSize_bounds length (by omega)
  rw [decoderSize]
  omega

theorem streamSize_bounds {length : Nat} (carried : length < 2 ^ 24) :
    decoderSize length + 9 ≤ streamSize length ∧ streamSize length ≤ decoderSize length + 12 := by
  have inner := decoderSize_bounds carried
  have outer := @descriptorSize_bounds (decoderSize length) (by omega)
  rw [streamSize]
  omega

/-- Sizes that follow each other are the same both ways round if each is a single group, or the
outermost one is of two groups that are alike. -/
theorem palindromes_iff {length : Nat} (carried : length < 2 ^ 24) :
    ((Nat.digits 128 (streamSize length)).Palindrome ∧
        (Nat.digits 128 (decoderSize length)).Palindrome ∧ (Nat.digits 128 length).Palindrome) ↔
      length ≤ 103 ∨ length = 105 := by
  have inner := decoderSize_bounds carried
  have outer := streamSize_bounds carried
  constructor
  · rintro ⟨stream, decoder, info⟩
    have infoSmall : length < 128 :=
      Digits.lt_of_palindromes (by omega) (by omega) info decoder
    have decoderSmall : decoderSize length < 128 :=
      Digits.lt_of_palindromes (by omega) (by omega) decoder stream
    have size : streamSize length = length + 24 := by
      rw [streamSize, descriptorSize_eq decoderSmall, decoderSize, descriptorSize_eq infoSmall]
      omega
    by_contra other
    have large : 128 ≤ streamSize length := by omega
    have ends := Digits.leading_of_palindrome (by decide) large stream
    rw [← Digits.leading_div (by decide) large, show streamSize length / 128 = 1 by omega,
      Digits.leading_of_lt (by decide)] at ends
    omega
  · intro lengths
    have decoder : decoderSize length = length + 15 := by
      rw [decoderSize, descriptorSize_eq (by omega)]
      omega
    have stream : streamSize length = length + 24 := by
      rw [streamSize, decoder, descriptorSize_eq (by omega)]
      omega
    refine ⟨?_, Digits.palindrome_of_lt (by omega), Digits.palindrome_of_lt (by omega)⟩
    rcases lengths with short | rfl
    · exact Digits.palindrome_of_lt (by omega)
    · have groups : Nat.digits 128 129 = [1, 1] := by norm_num
      rw [stream, groups]
      exact .cons_concat 1 .nil

section

variable {data : Bytes}

/-- The descriptor of the decoder, around the data of the sequence header. -/
def decoderDescriptor (data : Bytes) : DecoderConfigDescriptor DynDescriptor :=
  .new 0x40 0x05 0 0 (some ⟨⟨DecoderSpecificInfoDescriptor.tag⟩, data⟩)

/-- The descriptors of a stream: its own, the one of the decoder and the data. -/
theorem forall_inside_descriptor {holds : DynDescriptor → Prop} :
    (∀ descriptor, DynDescriptor.Inside (.es (Codecs.Aac.descriptor data)) descriptor →
      holds descriptor) ↔
      holds (.es (Codecs.Aac.descriptor data)) ∧ holds (.decoderConfig (decoderDescriptor data)) ∧
        holds (.decoderSpecificInfo ⟨⟨DecoderSpecificInfoDescriptor.tag⟩, data⟩) := by
  constructor
  · intro all
    have decoder : DynDescriptor.Inside (.es (Codecs.Aac.descriptor data))
        (.decoderConfig (decoderDescriptor data)) := .child .self List.mem_cons_self
    exact ⟨all _ .self, all _ decoder, all _ (decoder.child List.mem_cons_self)⟩
  · rintro ⟨stream, decoder, info⟩ descriptor inside
    rcases inside.cases_child with rfl | ⟨child, member, inside⟩
    · exact stream
    rw [List.mem_singleton.mp (show child ∈ [_] from member)] at inside
    rcases inside.cases_child with rfl | ⟨child, member, inside⟩
    · exact decoder
    rw [List.mem_singleton.mp (show child ∈ [_] from member)] at inside
    rcases inside.cases_child with rfl | ⟨_, member, _⟩
    · exact info
    · exact absurd member List.not_mem_nil

theorem descriptor_wellFormed (carried : data.length < 2 ^ 24) :
    (DynDescriptor.es (Codecs.Aac.descriptor data)).WellFormed := by
  have inner := decoderSize_bounds carried
  have outer := streamSize_bounds carried
  refine forall_inside_descriptor.mpr ⟨⟨⟨rfl, Nat.two_pow_pos 5, nofun, List.forall_mem_nil _⟩, ?_⟩,
    ⟨⟨rfl, show 5 < 2 ^ 6 by decide, show 1 < 2 by decide, Nat.two_pow_pos 24,
      List.forall_mem_nil _⟩, ?_⟩, ⟨rfl, show data.length < 2 ^ 28 by omega⟩⟩
  · change streamSize data.length < 2 ^ 28
    omega
  · change decoderSize data.length < 2 ^ 28
    omega

theorem palindromic_descriptor_iff (carried : data.length < 2 ^ 24) :
    (DynDescriptor.es (Codecs.Aac.descriptor data)).Palindromic ↔
      data.length ≤ 103 ∨ data.length = 105 :=
  forall_inside_descriptor.trans (palindromes_iff carried)

/-- The descriptors come back if the data takes so many bytes. -/
theorem descriptor_settled (carried : data.length < 2 ^ 24)
    (lengths : data.length ≤ 103 ∨ data.length = 105) :
    (Esds.new (Codecs.Aac.descriptor data)).Settled :=
  ⟨descriptor_wellFormed carried, (palindromic_descriptor_iff carried).mpr lengths, rfl⟩

end

/-- The data of an audio sequence header. -/
def AudioSequenceHeader.bytes (header : AudioSequenceHeader) : Bytes :=
  match header.data with
  | .aac data => data

/-- The entry of the sound is made of what its header says, and of the data itself. -/
inductive Sound.Holds (sound : Sound) (header : AudioSequenceHeader) : Prop
  | aac (config : Aac.PartialAudioSpecificConfig) (channels sampleSize : UInt16)
      (parsed : Aac.PartialAudioSpecificConfig.parse header.bytes = .ok config)
      (channelsKnown : Codecs.Aac.channels header.soundType = .ok channels)
      (sampleSizeKnown : Codecs.Aac.sampleSize header.soundSize = .ok sampleSize)
      (sampleRate : sound.sampleRate = config.samplingFrequency)
      (entry : sound.entry =
        Codecs.Aac.entry channels sampleSize config.samplingFrequency header.bytes) :
      Holds sound header

theorem Sound.holds_of_header {header : AudioSequenceHeader} {sound : Sound}
    (made : Sound.ofHeader header = .ok sound) : sound.Holds header := by
  obtain ⟨soundSize, soundType, ⟨data⟩⟩ := header
  obtain ⟨⟨entry, config⟩, built, more⟩ := sequence_eq_ok_iff.mp made
  obtain ⟨_, _, same⟩ := sequence_eq_ok_iff.mp more
  cases same
  obtain ⟨parsed, config, more⟩ := sequence_eq_ok_iff.mp built
  obtain ⟨channels, channelsKnown, more⟩ := sequence_eq_ok_iff.mp more
  obtain ⟨sampleSize, sampleSizeKnown, same⟩ := sequence_eq_ok_iff.mp more
  cases same
  exact .aac _ channels sampleSize (liftIo_eq_ok config) channelsKnown sampleSizeKnown rfl rfl

/-- What holds of boxes that fit holds everywhere in the entry of the sound, if it does of the
entry and of the box of its descriptors. -/
theorem Sound.everywhere_entry {holds : DynBox → Prop} {channels sampleSize : UInt16}
    {sampleRate : UInt32} {data : Bytes}
    (own : holds (Codecs.Aac.entry channels sampleSize sampleRate data))
    (descriptors : holds (.esds (.new (Codecs.Aac.descriptor data)))) :
    Everywhere holds (Codecs.Aac.entry channels sampleSize sampleRate data) :=
  (everywhere_iff _).mpr ⟨own, List.forall_mem_singleton.mpr (everywhere_leaf rfl descriptors)⟩

section

variable {header : AudioSequenceHeader} {sound : Sound}
  (made : Sound.ofHeader header = .ok sound)

include made

theorem Sound.entry_recoverable (lengths : header.bytes.length ≤ 103 ∨ header.bytes.length = 105) :
    Recoverable (storedEntry sound.entry) := by
  obtain ⟨config, channels, sampleSize, _, _, _, _, built⟩ := Sound.holds_of_header made
  have rate : (config.samplingFrequency % 0x10000).toNat < 2 ^ 16 := by
    rw [UInt32.toNat_mod]
    exact Nat.mod_lt _ (by decide)
  rw [built]
  exact Sound.everywhere_entry ⟨⟨sorts_alone rfl, rate⟩, id⟩
    ⟨⟨rfl, descriptor_settled (by omega) lengths⟩, not_not.mpr (List.forall_mem_nil _)⟩

theorem Sound.entry_honest : DynBox.Honest sound.entry := by
  obtain ⟨config, channels, sampleSize, _, _, _, _, built⟩ := Sound.holds_of_header made
  rw [built]
  exact @Sound.everywhere_entry (fun box => ¬DynBox.Overstated box) _ _ _ _ id
    (not_not.mpr (List.forall_mem_nil _))

theorem Sound.size_entry_le (carried : header.bytes.length < 2 ^ 24) :
    DynBox.size sound.entry ≤ header.bytes.length + 100 := by
  obtain ⟨config, channels, sampleSize, _, _, _, _, built⟩ := Sound.holds_of_header made
  have inner := decoderSize_bounds carried
  have outer := streamSize_bounds carried
  have stream := @descriptorSize_bounds (streamSize header.bytes.length) (by omega)
  have esds : BoxType.size (Esds.new (Codecs.Aac.descriptor header.bytes)) ≤
      4 + descriptorSize (streamSize header.bytes.length) + 16 := boxSize_le _
  have whole : DynBox.size sound.entry ≤
      6 + 2 + 20 + 0 + BoxType.size (Esds.new (Codecs.Aac.descriptor header.bytes)) + 0 + 16 := by
    rw [built]
    exact boxSize_le _
  omega

end

/-- The entry is as it was built if the rate fits the upper half of its field. -/
theorem Sound.storedEntry_eq_iff {header : AudioSequenceHeader} {sound : Sound}
    (made : Sound.ofHeader header = .ok sound) :
    storedEntry sound.entry = sound.entry ↔ sound.sampleRate.toNat < 2 ^ 16 := by
  obtain ⟨config, channels, sampleSize, _, _, _, rate, built⟩ := Sound.holds_of_header made
  rw [← rate] at built
  have kept : storedEntry sound.entry =
      Codecs.Aac.entry channels sampleSize (sound.sampleRate % 0x10000) header.bytes := by
    rw [built]
    rfl
  rw [kept, built]
  constructor
  · intro same
    have entries := congrArg SampleEntry.extension (Mp4a.mk.inj (DynBox.mp4a.inj same)).2.1
    have rates := congrArg (fun entry => entry.sampleRate.toNat) entries
    change (sound.sampleRate % 0x10000).toNat = sound.sampleRate.toNat at rates
    rw [← rates, UInt32.toNat_mod]
    exact Nat.mod_lt _ (by decide)
  · intro small
    have same : sound.sampleRate % 0x10000 = sound.sampleRate := by
      rw [← UInt32.toNat_inj, UInt32.toNat_mod]
      exact Nat.mod_eq_of_lt small
    rw [same]

/-! ## The segment -/

/-- A track with each of its sample entries changed. -/
def mapEntries (change : DynBox → DynBox) (trak : Trak DynBox) : Trak DynBox :=
  { trak with mdia := { trak.mdia with minf := { trak.mdia.minf with
      stbl := { trak.mdia.minf.stbl with stsd := { trak.mdia.minf.stbl.stsd with
        entries := trak.mdia.minf.stbl.stsd.entries.map change } } } } }

/-- A movie as it is read back: its sample entries as they are stored. -/
def storedMoov (movie : Moov DynBox) : Moov DynBox :=
  { movie with traks := movie.traks.map (mapEntries storedEntry) }

theorem storedMoov_movieOf (pictureTkhd soundTkhd : Tkhd) (timescale sampleRate : UInt32)
    (picture sound : DynBox) :
    storedMoov (movieOf pictureTkhd soundTkhd timescale sampleRate picture sound) =
      storedMovie pictureTkhd soundTkhd timescale sampleRate picture sound := rfl

theorem storedMoov_eq_iff (pictureTkhd soundTkhd : Tkhd) (timescale sampleRate : UInt32)
    (picture sound : DynBox) :
    storedMoov (movieOf pictureTkhd soundTkhd timescale sampleRate picture sound) =
        movieOf pictureTkhd soundTkhd timescale sampleRate picture sound ↔
      storedEntry picture = picture ∧ storedEntry sound = sound := by
  rw [storedMoov_movieOf]
  constructor
  · intro same
    have entries := congrArg (fun movie : Moov DynBox =>
      movie.traks.map fun trak => trak.mdia.minf.stbl.stsd.entries) same
    change [[storedEntry picture], [storedEntry sound]] = [[picture], [sound]] at entries
    simpa using entries
  · rintro ⟨pictureSame, soundSame⟩
    rw [storedMovie, pictureSame, soundSame]

theorem header_tkhd {checks : OverflowChecks} {creationTime modificationTime duration : UInt64}
    {trackId : UInt32} {widthHeight : Option (UInt32 × UInt32)} {tkhd : Tkhd}
    (made : Tkhd.new checks creationTime modificationTime trackId duration widthHeight = .ok tkhd) :
    tkhd.header.header = ⟨Tkhd.name⟩ := by
  obtain ⟨_, _, more⟩ := sequence_eq_ok_iff.mp made
  obtain ⟨_, _, same⟩ := sequence_eq_ok_iff.mp more
  cases same
  rfl

/-- What is written for a segment are the file type and the movie of both entries. -/
theorem muxAll_of_initBytes {checks : OverflowChecks} {picture : Picture} {sound : Sound}
    {timescale : UInt32} {data : Bytes}
    (built : initBytes checks picture sound timescale = .ok data) :
    ∃ pictureTkhd soundTkhd movie,
      pictureTkhd.header.header = ⟨Tkhd.name⟩ ∧ soundTkhd.header.header = ⟨Tkhd.name⟩ ∧
      movie = movieOf pictureTkhd soundTkhd timescale sound.sampleRate picture.entry sound.entry ∧
      initMoov checks picture sound timescale = .ok movie ∧
      DynBox.muxAll [.ftyp (initFtyp picture), .moov movie] = .ok data := by
  obtain ⟨ftyp, ftypWritten, more⟩ := sequence_eq_ok_iff.mp built
  obtain ⟨movie, moved, more⟩ := sequence_eq_ok_iff.mp more
  obtain ⟨moov, moovWritten, same⟩ := sequence_eq_ok_iff.mp more
  cases same
  obtain ⟨pictureTkhd, pictureTkhdMade, more⟩ := sequence_eq_ok_iff.mp moved
  obtain ⟨soundTkhd, soundTkhdMade, same⟩ := sequence_eq_ok_iff.mp more
  cases same
  refine ⟨pictureTkhd, soundTkhd, _, header_tkhd pictureTkhdMade, header_tkhd soundTkhdMade, rfl,
    moved, ?_⟩
  have first : DynBox.mux (.ftyp (initFtyp picture)) = .ok ftyp := ftypWritten
  have second : DynBox.mux (.moov (movieOf pictureTkhd soundTkhd timescale sound.sampleRate
    picture.entry sound.entry)) = .ok moov := moovWritten
  simp only [DynBox.muxAll, first, second]
  exact congrArg Except.ok (congrArg (ftyp ++ ·) (List.append_nil moov))

theorem initBytes_readsAll (reading : OverflowChecks) {checks : OverflowChecks}
    {video : VideoSequenceHeader (codecs shortRead)} {audio : AudioSequenceHeader}
    {picture : Picture} {sound : Sound} {timescale : UInt32} {data : Bytes}
    (pictureHolds : picture.Holds video) (soundMade : Sound.ofHeader audio = .ok sound)
    (built : initBytes checks picture sound timescale = .ok data) (readable : video.Readable)
    (small : video.size + 3000 ≤ u32Max)
    (lengths : audio.bytes.length ≤ 103 ∨ audio.bytes.length = 105) :
    ∃ movie, initMoov checks picture sound timescale = .ok movie ∧
      ReadsAll (DynBox.demux reading) [.ftyp (initFtyp picture), .moov (storedMoov movie)] data ∧
      (storedMoov movie = movie ↔ video.Plain ∧ sound.sampleRate.toNat < 2 ^ 16) := by
  obtain ⟨pictureTkhd, soundTkhd, movie, pictureNamed, soundNamed, same, moved, written⟩ :=
    muxAll_of_initBytes built
  subst same
  refine ⟨_, moved, ?_⟩
  have pictureBack := Picture.entry_recoverable pictureHolds readable
  have soundBack := Sound.entry_recoverable soundMade lengths
  have ftypBack : Recoverable (.ftyp (initFtyp picture)) := by
    refine recoverable_leaf rfl ⟨rfl, rfl, ?_⟩ id
    simp only [initFtyp, Ftyp.new, List.forall_mem_cons]
    exact ⟨rfl, rfl, Picture.brand_canonical pictureHolds, rfl, List.forall_mem_nil _⟩
  have moovBack : Recoverable (.moov (movieOf pictureTkhd soundTkhd timescale sound.sampleRate
      (storedEntry picture.entry) (storedEntry sound.entry))) :=
    everywhere_movie (fun _ fits honest => ⟨fits, honest⟩) pictureNamed soundNamed timescale
      sound.sampleRate pictureBack soundBack
  have pictureSize := Picture.size_entry_le pictureHolds
  have soundSize := Sound.size_entry_le soundMade (by omega)
  have whole := size_movie_le pictureTkhd soundTkhd timescale sound.sampleRate
    (storedEntry picture.entry) (storedEntry sound.entry)
  rw [size_storedEntry, size_storedEntry] at whole
  constructor
  · rw [storedMoov_movieOf]
    refine DynBox.muxAll_reads reading ?_ ?_ ?_
    · exact List.forall_mem_cons.mpr ⟨ftypBack, List.forall_mem_singleton.mpr moovBack⟩
    · refine List.forall_mem_cons.mpr ⟨?_, List.forall_mem_singleton.mpr ?_⟩
      · change 32 ≤ u32Max
        decide
      · rw [storedMovie]
        omega
    · rw [DynBox.muxAll, DynBox.muxAll, muxMovie_stored]
      exact written
  · rw [storedMoov_eq_iff, Picture.storedEntry_eq_iff pictureHolds,
      Sound.storedEntry_eq_iff soundMade]

/-- An init segment is read as the file type and the movie that were built, and the movie is
exactly the one that was built if the rate of the sound fits its field and the record of the
picture tells nothing that is never written. -/
theorem initBytes_reads (reading : OverflowChecks) {checks : OverflowChecks} {told : Float}
    {video : VideoSequenceHeader (codecs shortRead)} {audio : AudioSequenceHeader}
    {picture : Picture} {sound : Sound} {timescale : UInt32} {data : Bytes}
    (pictureMade : Picture.ofHeader checks told video = .ok picture)
    (soundMade : Sound.ofHeader audio = .ok sound)
    (built : initBytes checks picture sound timescale = .ok data) (readable : video.Readable)
    (small : video.size + 3000 ≤ u32Max) (short : audio.bytes.length ≤ 103) :
    ∃ movie, initMoov checks picture sound timescale = .ok movie ∧
      DynBox.demuxAll reading data = .ok [.ftyp (initFtyp picture), .moov (storedMoov movie)] ∧
      (storedMoov movie = movie ↔ video.Plain ∧ sound.sampleRate.toNat < 2 ^ 16) := by
  obtain ⟨movie, moved, reads, same⟩ := initBytes_readsAll reading
    (Picture.holds_of_header pictureMade) soundMade built readable small (.inl short)
  exact ⟨movie, moved, DynBox.demuxAll_eq_ok reads, same⟩

/-! A picture of 16 by 16 samples, and sound of 44100 Hz. -/

def smallRecord : H264.AVCDecoderConfigurationRecord :=
  ⟨1, 66, 0, 30, 3, [[0x67, 66, 0, 30, 0xfb, 0x88, 0x80, 0x80, 0x80]], [], none⟩

def smallVideo : VideoSequenceHeader (codecs .stays) := .avc smallRecord

def smallAudio : AudioSequenceHeader := ⟨.bit16, .stereo, .aac [0x12, 0x10]⟩

theorem smallRecord_readable : smallRecord.Readable where
  lengthSizeMinusOne := by decide
  sps := ⟨by decide, by decide⟩
  pps := ⟨by decide, nofun⟩
  extended := nofun
  plain _ := rfl

theorem smallVideo_reads : ∃ picture sound data movie,
    Picture.ofHeader .on 0 smallVideo = .ok picture ∧ Sound.ofHeader smallAudio = .ok sound ∧
      initBytes .on picture sound 30000 = .ok data ∧
      DynBox.demuxAll .on data = .ok [.ftyp (initFtyp picture), .moov (storedMoov movie)] ∧
      storedMoov movie = movie := by
  have finishes : (do
      let picture ← Picture.ofHeader .on 0 smallVideo
      let sound ← Sound.ofHeader smallAudio
      liftIo (initBytes .on picture sound 30000)).isOk = true := by decide +kernel
  have rate : (Sound.ofHeader smallAudio).toOption.map Sound.sampleRate = some 44100 := by
    decide +kernel
  cases outcome : (do
      let picture ← Picture.ofHeader .on 0 smallVideo
      let sound ← Sound.ofHeader smallAudio
      liftIo (initBytes .on picture sound 30000)) with
  | error fault =>
      rw [outcome] at finishes
      cases finishes
  | ok data =>
      obtain ⟨picture, pictureMade, more⟩ := sequence_eq_ok_iff.mp outcome
      obtain ⟨sound, soundMade, more⟩ := sequence_eq_ok_iff.mp more
      have built := liftIo_eq_ok more
      obtain ⟨movie, _, reads, same⟩ := initBytes_reads .on pictureMade soundMade built
        smallRecord_readable (by decide) (by decide)
      rw [soundMade] at rate
      have known : sound.sampleRate = 44100 := Option.some.inj rate
      refine ⟨picture, sound, data, movie, pictureMade, soundMade, built, reads, same.mpr ?_⟩
      rw [known]
      exact ⟨trivial, by decide⟩

end ScuffleVideo.Transmux
