import ScuffleVideo.Mp4.Codec
import ScuffleVideo.Wire.BitGrammar
import Mathlib.Data.List.Nodup

/-!
# The configuration of AAC audio

The first fields of an audio specific configuration: the type of the audio, the sampling
frequency and the channels.  A type from 31 on has a longer code, and a frequency that is not
in the table is spelled out behind an escape.  The parser accepts exactly the data that starts
with such codes.
-/

namespace ScuffleVideo.Aac

open Wire BitReader
open Mp4 (AudioObjectType)

inductive SampleFrequencyIndex where
  | freq96000
  | freq88200
  | freq64000
  | freq48000
  | freq44100
  | freq32000
  | freq24000
  | freq22050
  | freq16000
  | freq12000
  | freq11025
  | freq8000
  | freq7350
  | freqReserved
  | freqReserved2
  | freqEscape
  deriving DecidableEq, Repr

namespace SampleFrequencyIndex

/-- The indices in the order of their numbers. -/
def all : List SampleFrequencyIndex :=
  [.freq96000, .freq88200, .freq64000, .freq48000, .freq44100, .freq32000, .freq24000,
    .freq22050, .freq16000, .freq12000, .freq11025, .freq8000, .freq7350, .freqReserved,
    .freqReserved2, .freqEscape]

def fromU8 (value : UInt8) : Option SampleFrequencyIndex := all[value.toNat]?

def toFreq : SampleFrequencyIndex → Option UInt32
  | .freq96000 => some 96000
  | .freq88200 => some 88200
  | .freq64000 => some 64000
  | .freq48000 => some 48000
  | .freq44100 => some 44100
  | .freq32000 => some 32000
  | .freq24000 => some 24000
  | .freq22050 => some 22050
  | .freq16000 => some 16000
  | .freq12000 => some 12000
  | .freq11025 => some 11025
  | .freq8000 => some 8000
  | .freq7350 => some 7350
  | .freqReserved => none
  | .freqReserved2 => none
  | .freqEscape => none

end SampleFrequencyIndex

structure PartialAudioSpecificConfig where
  audioObjectType : AudioObjectType
  samplingFrequency : UInt32
  channelConfiguration : UInt8
  deriving DecidableEq, Repr

/-! ## Reading -/

/-- A value that is missing is reported as bad data. -/
def orInvalid {α : Type} (message : String) : Option α → BitReader α
  | some value => pure value
  | none => fun _ => Reader.fail (.invalidData message)

def readObjectType : BitReader UInt16 := do
  let audioObjectType ← readBits 5
  if audioObjectType.toUInt16 = 31 then do
    let more ← readBits 6
    return 32 + more.toUInt16
  else return audioObjectType.toUInt16

/-- The frequency of an index, or the one behind it. -/
def readFrequencyOf : SampleFrequencyIndex → BitReader UInt32
  | .freqEscape => do return (← readBits 24).toUInt32
  | index => orInvalid "Invalid sampling frequency index" index.toFreq

def readSamplingFrequency : BitReader UInt32 := do
  let number ← readBits 4
  let index ← orInvalid "Invalid sampling frequency index"
    (SampleFrequencyIndex.fromU8 number.toUInt8)
  readFrequencyOf index

namespace PartialAudioSpecificConfig

def read : BitReader PartialAudioSpecificConfig := do
  let audioObjectType ← readObjectType
  let samplingFrequency ← readSamplingFrequency
  let channelConfiguration ← readBits 4
  return ⟨.fromU16 audioObjectType, samplingFrequency, channelConfiguration.toUInt8⟩

def parse (data : Bytes) : Except IoFault PartialAudioSpecificConfig := do
  let (config, _) ← (run read).parse data
  return config

end PartialAudioSpecificConfig

/-! ## The codes -/

/-- The code of a type of audio. -/
inductive ObjectTypeCode : List Bool → UInt16 → Prop
  | short {number : Nat} (small : number < 31) :
      ObjectTypeCode (toBits 5 number) (UInt16.ofNat number)
  | long {number : Nat} (small : number < 64) :
      ObjectTypeCode (toBits 5 31 ++ toBits 6 number) (UInt16.ofNat (32 + number))

/-- The code of a sampling frequency: its place in the table, or the frequency itself. -/
inductive FrequencyCode : List Bool → UInt32 → Prop
  | listed {place : Nat} {index : SampleFrequencyIndex} {frequency : UInt32}
      (found : SampleFrequencyIndex.all[place]? = some index)
      (known : index.toFreq = some frequency) : FrequencyCode (toBits 4 place) frequency
  | escaped {number : Nat} (small : number < 2 ^ 24) :
      FrequencyCode (toBits 4 15 ++ toBits 24 number) (UInt32.ofNat number)

/-- The codes of a configuration, one behind the other. -/
inductive ConfigCode : List Bool → PartialAudioSpecificConfig → Prop
  | fields {type frequency : List Bool} {audioObjectType : UInt16} {samplingFrequency : UInt32}
      {channels : Nat} (typeCode : ObjectTypeCode type audioObjectType)
      (frequencyCode : FrequencyCode frequency samplingFrequency) (small : channels < 16) :
      ConfigCode (type ++ (frequency ++ toBits 4 channels))
        ⟨.fromU16 audioObjectType, samplingFrequency, UInt8.ofNat channels⟩

theorem ofNat_eq_escape {number : Nat} (small : number < 32) :
    UInt16.ofNat number = 31 ↔ number = 31 := by
  rw [← UInt16.toNat_inj, UInt16.toNat_ofNat']
  change number % 65536 = 31 ↔ number = 31
  omega

theorem readObjectType_parses : Parses readObjectType ObjectTypeCode := by
  have long : Parses (do return 32 + (← readBits 6).toUInt16) _ :=
    (Parses.readBits (by decide)).map fun more => 32 + more.toUInt16
  refine ((@Parses.readBits 5 (by decide)).bind fun number =>
    Parses.ite long (Parses.pure number.toUInt16)).congr fun bits value => ?_
  constructor
  · rintro ⟨_, _, rest, rfl, ⟨number, small, rfl, rfl⟩, spelled⟩
    rw [UInt64.toUInt16_ofNat', ofNat_eq_escape small] at spelled
    rcases spelled with ⟨rfl, _, ⟨more, smallMore, rfl, rfl⟩, rfl⟩ | ⟨listed, rfl, rfl⟩
    · rw [UInt64.toUInt16_ofNat']
      exact UInt16.ofNat_add 32 more ▸ .long smallMore
    · rw [List.append_nil]
      exact .short (by omega)
  · rintro (@⟨number, small⟩ | @⟨number, small⟩)
    · have room : number < 32 := by omega
      refine ⟨_, _, [], (List.append_nil _).symm, ⟨number, room, rfl, rfl⟩, .inr ?_⟩
      rw [UInt64.toUInt16_ofNat', ofNat_eq_escape room]
      exact ⟨by omega, rfl, rfl⟩
    · refine ⟨_, _, _, rfl, ⟨31, by decide, rfl, rfl⟩, .inl ⟨rfl, _, ⟨number, small, rfl, rfl⟩, ?_⟩⟩
      rw [UInt64.toUInt16_ofNat', UInt16.ofNat_add]
      rfl

theorem orInvalid_parses {α : Type} (message : String) (found : Option α) :
    Parses (orInvalid message found) fun bits value => bits = [] ∧ found = some value := by
  cases found with
  | none =>
      refine (Parses.fail fun _ _ _ => ⟨.invalidData message, rfl⟩).congr fun bits value => ?_
      exact ⟨False.elim, by rintro ⟨_, ⟨⟩⟩⟩
  | some value =>
      refine (Parses.pure value).congr fun bits result => and_congr_right fun _ => ?_
      rw [Option.some_inj]
      exact eq_comm

theorem readFrequencyOf_listed {index : SampleFrequencyIndex} (listed : index ≠ .freqEscape) :
    readFrequencyOf index = orInvalid "Invalid sampling frequency index" index.toFreq := by
  cases index <;> first | rfl | exact absurd rfl listed

/-- A frequency of the table is spelled by its index alone. -/
theorem readFrequencyOf_parses (index : SampleFrequencyIndex) :
    Parses (readFrequencyOf index) fun bits frequency =>
      bits = [] ∧ index.toFreq = some frequency ∨
        index = .freqEscape ∧ ∃ number < 2 ^ 24, bits = toBits 24 number ∧
          frequency = UInt32.ofNat number := by
  by_cases escape : index = .freqEscape
  · subst escape
    refine ((@Parses.readBits 24 (by decide)).map UInt64.toUInt32).congr
      fun bits frequency => ?_
    constructor
    · rintro ⟨_, ⟨number, small, spelled, rfl⟩, rfl⟩
      exact .inr ⟨rfl, number, small, spelled, UInt64.toUInt32_ofNat' number⟩
    · rintro (⟨_, impossible⟩ | ⟨_, number, small, spelled, rfl⟩)
      · cases impossible
      · exact ⟨_, ⟨number, small, spelled, rfl⟩, (UInt64.toUInt32_ofNat' number).symm⟩
  · rw [readFrequencyOf_listed escape]
    refine (orInvalid_parses _ _).congr fun bits frequency => ?_
    constructor
    · exact .inl
    · rintro (spelled | ⟨isEscape, _⟩)
      · exact spelled
      · exact absurd isEscape escape

/-- Every code of four bits has an index. -/
theorem SampleFrequencyIndex.fromU8_eq {place : Nat} (small : place < 16) :
    fromU8 (UInt64.ofNat place).toUInt8 = all[place]? := by
  rw [fromU8, UInt64.toUInt8_ofNat', UInt8.toNat_ofNat', Nat.mod_eq_of_lt (by omega)]

theorem SampleFrequencyIndex.all_eq_escape {place : Nat} (found : all[place]? = some .freqEscape) :
    place = 15 := by
  obtain ⟨inside, same⟩ := List.getElem?_eq_some_iff.mp found
  have last : all.get ⟨15, by decide⟩ = .freqEscape := rfl
  exact ((by decide : all.Nodup).getElem_inj_iff).mp (same.trans last.symm)

theorem readSamplingFrequency_parses : Parses readSamplingFrequency FrequencyCode := by
  refine ((@Parses.readBits 4 (by decide)).bind fun number =>
    (orInvalid_parses _ _).bind readFrequencyOf_parses).congr fun bits frequency => ?_
  constructor
  · rintro ⟨_, _, _, rfl, ⟨place, small, rfl, rfl⟩, _, index, rest, rfl, ⟨rfl, found⟩, spelled⟩
    rw [SampleFrequencyIndex.fromU8_eq small] at found
    rcases spelled with ⟨rfl, known⟩ | ⟨rfl, number, smallNumber, spelled, rfl⟩
    · rw [List.append_nil]
      exact .listed found known
    · rw [SampleFrequencyIndex.all_eq_escape found, spelled, List.nil_append]
      exact .escaped smallNumber
  · rintro (@⟨place, index, frequency, found, known⟩ | @⟨number, small⟩)
    · have room : place < 16 := (List.getElem?_eq_some_iff.mp found).1
      refine ⟨_, _, [], (List.append_nil _).symm, ⟨place, room, rfl, rfl⟩, [], index, [], rfl,
        ⟨rfl, ?_⟩, .inl ⟨rfl, known⟩⟩
      rw [SampleFrequencyIndex.fromU8_eq room, found]
    · generalize spelled : toBits 24 number = bits
      exact ⟨_, _, bits, rfl, ⟨15, by decide, rfl, rfl⟩, [], .freqEscape, bits, rfl, ⟨rfl, rfl⟩,
        .inr ⟨rfl, number, small, spelled.symm, rfl⟩⟩

namespace PartialAudioSpecificConfig

theorem read_parses : Parses read ConfigCode := by
  refine (readObjectType_parses.bind fun audioObjectType =>
    readSamplingFrequency_parses.bind fun samplingFrequency =>
      (@Parses.readBits 4 (by decide)).map fun channels =>
        PartialAudioSpecificConfig.mk (.fromU16 audioObjectType) samplingFrequency
          channels.toUInt8).congr
      fun bits config => ?_
  constructor
  · rintro ⟨type, audioObjectType, _, rfl, typeCode, frequency, samplingFrequency, _, rfl,
      frequencyCode, _, ⟨channels, small, rfl, rfl⟩, rfl⟩
    rw [UInt64.toUInt8_ofNat']
    exact .fields typeCode frequencyCode small
  · rintro ⟨typeCode, frequencyCode, small⟩
    refine ⟨_, _, _, rfl, typeCode, _, _, _, rfl, frequencyCode, _, ⟨_, small, rfl, rfl⟩, ?_⟩
    rw [UInt64.toUInt8_ofNat']

/-- A configuration is read exactly from the data that starts with its codes: the shorter or
the longer code of the type, a frequency of the table or one behind the escape, and the number
of the channels. -/
theorem parse_ok_iff_configCode (data : Bytes) (config : PartialAudioSpecificConfig) :
    parse data = .ok config ↔
      ∃ bits rest, bytesBits data = bits ++ rest ∧ ConfigCode bits config := by
  rw [← read_parses.run_iff]
  unfold parse Reader.parse
  cases run read data 0 with
  | error fault =>
      constructor
      · intro impossible
        cases impossible
      · rintro ⟨_, _, ⟨⟩⟩
  | ok read =>
      constructor
      · rintro ⟨⟩
        exact ⟨_, _, rfl⟩
      · rintro ⟨_, _, ⟨⟩⟩
        rfl

end PartialAudioSpecificConfig

end ScuffleVideo.Aac
