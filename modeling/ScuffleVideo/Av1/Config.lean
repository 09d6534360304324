import ScuffleVideo.Wire.BitReader
import ScuffleVideo.Wire.BitWriter

/-!
# AV1 codec configuration

The record that introduces an AV1 stream: four bytes of small fields, then the
configuration units as they are.  The reader takes two of the three bits behind
the sample position for the range of the colours; the writer clears all three.
-/

namespace ScuffleVideo.Av1

open Wire

structure AV1CodecConfigurationRecord where
  seqProfile : UInt8
  seqLevelIdx0 : UInt8
  seqTier0 : Bool
  highBitdepth : Bool
  twelveBit : Bool
  monochrome : Bool
  chromaSubsamplingX : Bool
  chromaSubsamplingY : Bool
  chromaSamplePosition : UInt8
  hdrWcgIdc : UInt8
  initialPresentationDelayMinusOne : Option UInt8
  configObu : Bytes
  deriving DecidableEq, Repr

namespace AV1CodecConfigurationRecord

open BitReader in
def readDelay : BitReader (Option UInt8) := do
  if ← readBit then
    let delay ← readBits 4
    return some delay.toUInt8
  else
    let _ ← seekBits 4
    return none

def invalid {α : Type} (message : String) : BitReader α := fun _ =>
  Reader.fail (.invalidData message)

/-- The fields in front of the configuration units. -/
def readFields : BitReader (Bytes → AV1CodecConfigurationRecord) := do
  let marker ← BitReader.readBit
  if !marker then invalid "marker is not set"
  else do
    let version ← BitReader.readBits 7
    if version.toUInt8 ≠ 1 then invalid "version is not 1"
    else do
      let seqProfile ← BitReader.readBits 3
      let seqLevelIdx0 ← BitReader.readBits 5
      let seqTier0 ← BitReader.readBit
      let highBitdepth ← BitReader.readBit
      let twelveBit ← BitReader.readBit
      let monochrome ← BitReader.readBit
      let chromaSubsamplingX ← BitReader.readBit
      let chromaSubsamplingY ← BitReader.readBit
      let chromaSamplePosition ← BitReader.readBits 2
      let hdrWcgIdc ← BitReader.readBits 2
      let _ ← BitReader.seekBits 1
      let initialPresentationDelayMinusOne ← readDelay
      return fun configObu => ⟨seqProfile.toUInt8, seqLevelIdx0.toUInt8, seqTier0, highBitdepth,
        twelveBit, monochrome, chromaSubsamplingX, chromaSubsamplingY, chromaSamplePosition.toUInt8,
        hdrWcgIdc.toUInt8, initialPresentationDelayMinusOne, configObu⟩

def demux : Reader IoFault AV1CodecConfigurationRecord := do
  let (record, state) ← BitReader.run readFields
  if !BitReader.isAligned state then Reader.fail (.invalidData "Bit reader is not aligned")
  else do
    let configObu ← Reader.extractRemaining
    return record configObu

def size (record : AV1CodecConfigurationRecord) : Nat := 1 + 1 + 1 + 1 + record.configObu.length

open BitWriting in
def writeDelay : Option UInt8 → BitWriting
  | some delay => do
      writeBit true
      writeBits delay.toUInt64 4
  | none => do
      writeBit false
      writeBits 0 4

open BitWriting in
def write (record : AV1CodecConfigurationRecord) : BitWriting := do
  writeBit true
  writeBits 1 7
  writeBits record.seqProfile.toUInt64 3
  writeBits record.seqLevelIdx0.toUInt64 5
  writeBit record.seqTier0
  writeBit record.highBitdepth
  writeBit record.twelveBit
  writeBit record.monochrome
  writeBit record.chromaSubsamplingX
  writeBit record.chromaSubsamplingY
  writeBits record.chromaSamplePosition.toUInt64 2
  writeBits 0 3
  writeDelay record.initialPresentationDelayMinusOne

def mux (record : AV1CodecConfigurationRecord) : Except IoFault Bytes := do
  let fields ← BitWriting.finish record.write
  return fields ++ record.configObu

instance {α : Type} (message : String) : BitReader.Returns (invalid message : BitReader α) :=
  ⟨fun _ => Reader.Returns.invalidData message⟩

instance : BitReader.Returns readDelay := BitReader.Returns.bind

set_option synthInstance.maxSize 1000 in
instance : BitReader.Returns readFields := BitReader.Returns.bind

instance : Reader.Returns demux := Reader.Returns.bind

/-! ## What is written -/

def delayNumber : Option UInt8 → Nat
  | some delay => 1 * 2 ^ 4 + delay.toNat
  | none => 0 * 2 ^ 4 + 0

/-- The bytes of the fields when they fit. -/
def fieldBytes (record : AV1CodecConfigurationRecord) : Bytes :=
  [UInt8.ofNat (1 * 2 ^ 7 + 1),
    UInt8.ofNat (record.seqProfile.toNat * 2 ^ 5 + record.seqLevelIdx0.toNat),
    UInt8.ofNat (record.seqTier0.toNat * 2 ^ 7 + (record.highBitdepth.toNat * 2 ^ 6 +
      (record.twelveBit.toNat * 2 ^ 5 + (record.monochrome.toNat * 2 ^ 4 +
      (record.chromaSubsamplingX.toNat * 2 ^ 3 + (record.chromaSubsamplingY.toNat * 2 ^ 2 +
        record.chromaSamplePosition.toNat)))))),
    UInt8.ofNat (0 * 2 ^ 5 + delayNumber record.initialPresentationDelayMinusOne)]

def bytes (record : AV1CodecConfigurationRecord) : Bytes := record.fieldBytes ++ record.configObu

/-- The fields that the writer holds to their bits. -/
structure Fits (record : AV1CodecConfigurationRecord) : Prop where
  seqProfile : record.seqProfile.toNat < 2 ^ 3
  seqLevelIdx0 : record.seqLevelIdx0.toNat < 2 ^ 5
  chromaSamplePosition : record.chromaSamplePosition.toNat < 2 ^ 2
  delay : ∀ delay ∈ record.initialPresentationDelayMinusOne, delay.toNat < 2 ^ 4

theorem length_bytes (record : AV1CodecConfigurationRecord) :
    record.bytes.length = record.size := by
  unfold bytes size fieldBytes
  rw [List.length_append]
  rfl

def delayLayout : Option UInt8 → List Bool
  | some delay => [true] ++ toBits 4 delay.toNat
  | none => [false] ++ toBits 4 0

/-- The layout of the fields in bits. -/
def layout (record : AV1CodecConfigurationRecord) : List Bool :=
  [true] ++ (toBits 7 1 ++ (toBits 3 record.seqProfile.toNat ++
  (toBits 5 record.seqLevelIdx0.toNat ++ ([record.seqTier0] ++ ([record.highBitdepth] ++
  ([record.twelveBit] ++ ([record.monochrome] ++ ([record.chromaSubsamplingX] ++
  ([record.chromaSubsamplingY] ++ (toBits 2 record.chromaSamplePosition.toNat ++
  (toBits 3 0 ++ delayLayout record.initialPresentationDelayMinusOne)))))))))))

theorem toBits_delayNumber {delay : Option UInt8} (fits : ∀ inner ∈ delay, inner.toNat < 2 ^ 4) :
    toBits 5 (delayNumber delay) = delayLayout delay ∧ delayNumber delay < 2 ^ 5 := by
  cases delay with
  | none => exact ⟨rfl, by decide⟩
  | some delay =>
      have small : delay.toNat < 2 ^ 4 := fits delay rfl
      refine ⟨?_, by rw [delayNumber]; omega⟩
      rw [delayNumber, delayLayout, ← toBits_one true, toBits_append _ _ _ _ small]
      rfl

theorem bytesBits_fieldBytes {record : AV1CodecConfigurationRecord} (fits : record.Fits) :
    bytesBits record.fieldBytes = record.layout := by
  obtain ⟨delay, delaySmall⟩ := toBits_delayNumber fits.delay
  have position := fits.chromaSamplePosition
  have tier := Bool.toNat_lt record.seqTier0
  have high := Bool.toNat_lt record.highBitdepth
  have twelve := Bool.toNat_lt record.twelveBit
  have mono := Bool.toNat_lt record.monochrome
  have subsamplingX := Bool.toNat_lt record.chromaSubsamplingX
  have subsamplingY := Bool.toNat_lt record.chromaSubsamplingY
  unfold fieldBytes layout
  rw [bytesBits_pair (show 1 + 7 = 8 from rfl) (by decide) (by decide),
    bytesBits_pair (show 3 + 5 = 8 from rfl) fits.seqProfile fits.seqLevelIdx0,
    bytesBits_pair (show 1 + 7 = 8 from rfl) tier (by omega),
    bytesBits_pair (show 3 + 5 = 8 from rfl) (by decide) delaySmall, delay, bytesBits_nil,
    List.append_nil,
    ← toBits_append 1 6 _ _ (show _ < 2 ^ 6 by omega),
    ← toBits_append 1 5 _ _ (show _ < 2 ^ 5 by omega),
    ← toBits_append 1 4 _ _ (show _ < 2 ^ 4 by omega),
    ← toBits_append 1 3 _ _ (show _ < 2 ^ 3 by omega),
    ← toBits_append 1 2 _ _ position]
  simp only [toBits_one, List.append_assoc]
  rfl

open BitWriting in
theorem writeDelay_emits (delay : Option UInt8) :
    Emits (writeDelay delay) (∀ inner ∈ delay, inner.toNat < 2 ^ 4) (delayLayout delay) := by
  cases delay with
  | none =>
      exact ((Emits.writeBit false).seq (Emits.writeBits 0 (show 4 ≤ 64 by decide))).congr
        ⟨fun _ => nofun, fun _ => ⟨trivial, by decide⟩⟩ fun _ => rfl
  | some delay =>
      apply ((Emits.writeBit true).seq
        (Emits.writeBits delay.toUInt64 (show 4 ≤ 64 by decide))).congr
      · simp only [UInt8.toNat_toUInt64, Option.mem_def, Option.some.injEq, forall_eq', true_and]
      · intro _
        rw [UInt8.toNat_toUInt64, delayLayout]

open BitWriting in
theorem write_emits (record : AV1CodecConfigurationRecord) :
    Emits record.write record.Fits (bytesBits record.fieldBytes) := by
  apply ((Emits.writeBit true).seq
    ((Emits.writeBits 1 (show 7 ≤ 64 by decide)).seq
    ((Emits.writeBits record.seqProfile.toUInt64 (show 3 ≤ 64 by decide)).seq
    ((Emits.writeBits record.seqLevelIdx0.toUInt64 (show 5 ≤ 64 by decide)).seq
    ((Emits.writeBit record.seqTier0).seq
    ((Emits.writeBit record.highBitdepth).seq
    ((Emits.writeBit record.twelveBit).seq
    ((Emits.writeBit record.monochrome).seq
    ((Emits.writeBit record.chromaSubsamplingX).seq
    ((Emits.writeBit record.chromaSubsamplingY).seq
    ((Emits.writeBits record.chromaSamplePosition.toUInt64 (show 2 ≤ 64 by decide)).seq
    ((Emits.writeBits 0 (show 3 ≤ 64 by decide)).seq
    (writeDelay_emits record.initialPresentationDelayMinusOne))))))))))))).congr
  · simp only [UInt8.toNat_toUInt64]
    exact ⟨fun ⟨_, _, profile, level, _, _, _, _, _, _, position, _, delay⟩ =>
        ⟨profile, level, position, delay⟩,
      fun fits => ⟨trivial, by decide, fits.seqProfile, fits.seqLevelIdx0, trivial, trivial,
        trivial, trivial, trivial, trivial, fits.chromaSamplePosition, by decide, fits.delay⟩⟩
  · rintro ⟨_, _, profile, level, _, _, _, _, _, _, position, _, delay⟩
    simp only [UInt8.toNat_toUInt64] at *
    rw [bytesBits_fieldBytes ⟨profile, level, position, delay⟩, layout]
    rfl

/-- A record is written when its small fields fit, and then as its bytes. -/
theorem mux_eq_ok_iff {record : AV1CodecConfigurationRecord} {result : Bytes} :
    record.mux = .ok result ↔ record.Fits ∧ result = record.bytes := by
  unfold mux
  rw [sequence_eq_ok_iff]
  constructor
  · rintro ⟨fields, written, same⟩
    obtain ⟨fits, rfl⟩ := (BitWriting.finish_eq_ok_iff record.write_emits).mp written
    cases same
    exact ⟨fits, rfl⟩
  · rintro ⟨fits, rfl⟩
    exact ⟨_, (BitWriting.finish_eq_ok_iff record.write_emits).mpr ⟨fits, rfl⟩, rfl⟩

end AV1CodecConfigurationRecord

end ScuffleVideo.Av1
