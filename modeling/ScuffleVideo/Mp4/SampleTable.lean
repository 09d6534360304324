import ScuffleVideo.Mp4.BoxType

/-!
# The tables of a sample table

Most boxes of a sample table are a count and as many entries of one width.  They
share one way of reading, measuring and writing; each type gives its entries.
The others pack samples more tightly: sizes of 4, 8 or 16 bits, four 2-bit
fields, or a list that simply ends with the payload.
-/

namespace ScuffleVideo.Mp4

open Wire Wire.Reader

/-! ## Counted entries -/

section Counted

variable {α : Type}

/-- The full header, the number of entries, and the entries.  The table is allocated for as
many as are announced. -/
def readTable (memory : Memory) (header : BoxHeader)
    (readEntry : FullBoxHeader → Reader IoFault α) : Reader IoFault (FullBoxHeader × List α) := do
  let full ← FullBoxHeader.demux header
  let entryCount ← readU32
  allocate memory header.boxType entryCount.toNat
  let entries ← repeated (readEntry full) entryCount.toNat
  return (full, entries)

def tableSize (header : FullBoxHeader) (width : Nat) (entries : List α) : Nat :=
  header.size + 4 + entries.length * width

def muxTable (header : FullBoxHeader) (entryBytes : α → Bytes) (entries : List α) :
    Except IoFault Bytes := do
  let first ← header.mux
  return first ++ (beU32 (UInt32.ofNat entries.length) ++ entries.flatMap entryBytes)

theorem length_flatMap_const {encode : α → Bytes} {width : Nat}
    (fixed : ∀ value, (encode value).length = width) (values : List α) :
    (values.flatMap encode).length = values.length * width := by
  induction values with
  | nil => exact (Nat.zero_mul width).symm
  | cons value values ih =>
      rw [List.flatMap_cons, List.length_append, ih, fixed, List.length_cons, Nat.succ_mul,
        Nat.add_comm]

theorem length_muxTable {header : FullBoxHeader} {entryBytes : α → Bytes} {entries : List α}
    {width : Nat} {payload : Bytes} (fixed : ∀ entry, (entryBytes entry).length = width)
    (written : muxTable header entryBytes entries = .ok payload) :
    payload.length = tableSize header width entries := by
  rw [FullBoxHeader.length_headed written, List.length_append, length_beU32,
    length_flatMap_const fixed, tableSize, Nat.add_assoc]

theorem readTable_reads {header : FullBoxHeader} {readEntry : FullBoxHeader → Reader IoFault α}
    {entryBytes : α → Bytes} {entries : List α} (small : header.flags.toNat < 2 ^ 24)
    (few : entries.length < 2 ^ 32)
    (read : ∀ entry ∈ entries, Reads (readEntry header) (entryBytes entry) entry) :
    Reads (readTable .unlimited header.header readEntry)
      (header.bytes ++ (beU32 (UInt32.ofNat entries.length) ++ entries.flatMap entryBytes))
      (header, entries) := by
  have count : (UInt32.ofNat entries.length).toNat = entries.length :=
    UInt32.toNat_ofNat_of_lt' few
  apply (FullBoxHeader.demux_reads small).bind
  apply (Reads.readU32 (UInt32.ofNat entries.length)).bind
  apply (allocate_reads _ _).bind
  rw [count]
  exact (Reads.repeated read).map fun entries => (header, entries)

/-- The header of a table that was read is of the type at hand, and its count tells the
number of its entries. -/
theorem of_readTable {memory : Memory} {header : BoxHeader}
    {readEntry : FullBoxHeader → Reader IoFault α} {buffer : Bytes} {position stop : Nat}
    {full : FullBoxHeader} {entries : List α}
    (read : readTable memory header readEntry buffer position = .ok ((full, entries), stop)) :
    full.header = header ∧ entries.length < 2 ^ 32 := by
  obtain ⟨head, _, headRead, read⟩ := bind_eq_ok_iff.mp read
  obtain ⟨count, _, _, read⟩ := bind_eq_ok_iff.mp read
  obtain ⟨_, _, _, read⟩ := bind_eq_ok_iff.mp read
  obtain ⟨found, _, counted, done⟩ := bind_eq_ok_iff.mp read
  cases done
  constructor
  · obtain ⟨_, _, _, headRead⟩ := bind_eq_ok_iff.mp headRead
    obtain ⟨_, _, _, headRead⟩ := bind_eq_ok_iff.mp headRead
    cases headRead
    rfl
  · rw [length_of_repeated counted]
    exact count.toNat_lt

end Counted

/-! ## Decoding times -/

structure SttsEntry where
  sampleCount : UInt32
  sampleDelta : UInt32
  deriving DecidableEq, Repr

structure Stts where
  header : FullBoxHeader
  entries : List SttsEntry
  deriving DecidableEq, Repr

namespace Stts

def name : FourCC := .ofChars 's' 't' 't' 's'

def new (entries : List SttsEntry) : Stts := ⟨.new name 0 0, entries⟩

def readEntry : Reader IoFault SttsEntry := do
  let sampleCount ← readU32
  let sampleDelta ← readU32
  return ⟨sampleCount, sampleDelta⟩

def read (memory : Memory) (header : BoxHeader) : Reader IoFault Stts := do
  let (header, entries) ← readTable memory header fun _ => readEntry
  return ⟨header, entries⟩

def entryBytes (entry : SttsEntry) : Bytes := beU32 entry.sampleCount ++ beU32 entry.sampleDelta

instance : BoxType Stts where
  name := name
  demux build header data := (read build.memory header).parse data
  primitiveSize stts := tableSize stts.header 8 stts.entries
  primitiveMux stts := muxTable stts.header entryBytes stts.entries
  validate stts := stts.header.checkPlain "stts"

theorem length_entryBytes (entry : SttsEntry) : (entryBytes entry).length = 8 := by
  rw [entryBytes, List.length_append, length_beU32, length_beU32]

instance : ExactSize Stts := ⟨fun _ _ _ written => length_muxTable length_entryBytes written⟩

instance : Returns readEntry := Returns.bind

end Stts

/-! ## Composition times -/

structure CttsEntry where
  sampleCount : UInt32
  sampleOffset : Int64
  deriving DecidableEq, Repr

structure Ctts where
  header : FullBoxHeader
  entries : List CttsEntry
  deriving DecidableEq, Repr

namespace Ctts

def name : FourCC := .ofChars 'c' 't' 't' 's'

/-- The offset is signed in version 1 only. -/
def readOffset (version : UInt8) : Reader IoFault Int64 :=
  if version = 1 then do return (← readI32).toInt64
  else do return (← readU32).toUInt64.toInt64

def readEntry (header : FullBoxHeader) : Reader IoFault CttsEntry := do
  let sampleCount ← readU32
  let sampleOffset ← readOffset header.version
  return ⟨sampleCount, sampleOffset⟩

def read (memory : Memory) (header : BoxHeader) : Reader IoFault Ctts := do
  let (header, entries) ← readTable memory header readEntry
  return ⟨header, entries⟩

def offsetBytes (version : UInt8) (offset : Int64) : Bytes :=
  if version = 1 then beI32 offset.toInt32 else beU32 offset.toUInt64.toUInt32

def entryBytes (version : UInt8) (entry : CttsEntry) : Bytes :=
  beU32 entry.sampleCount ++ offsetBytes version entry.sampleOffset

def validate (ctts : Ctts) : Except IoFault Unit := do
  refuse (ctts.header.flags != 0) "ctts flags must be 0"
  refuse (1 < ctts.header.version) "ctts version must be 0 or 1"

instance : BoxType Ctts where
  name := name
  demux build header data := (read build.memory header).parse data
  primitiveSize ctts := tableSize ctts.header 8 ctts.entries
  primitiveMux ctts := muxTable ctts.header (entryBytes ctts.header.version) ctts.entries
  validate := validate

theorem length_offsetBytes (version : UInt8) (offset : Int64) :
    (offsetBytes version offset).length = 4 := by
  unfold offsetBytes
  split
  · exact length_beI32 _
  · exact length_beU32 _

theorem length_entryBytes (version : UInt8) (entry : CttsEntry) :
    (entryBytes version entry).length = 8 := by
  rw [entryBytes, List.length_append, length_beU32, length_offsetBytes]

instance : ExactSize Ctts := ⟨fun _ _ _ written => length_muxTable (length_entryBytes _) written⟩

instance (version : UInt8) : Returns (readOffset version) := Returns.ite

instance (header : FullBoxHeader) : Returns (readEntry header) := Returns.bind

end Ctts

/-! ## Samples in chunks -/

structure StscEntry where
  firstChunk : UInt32
  samplesPerChunk : UInt32
  sampleDescriptionIndex : UInt32
  deriving DecidableEq, Repr

structure Stsc where
  header : FullBoxHeader
  entries : List StscEntry
  deriving DecidableEq, Repr

namespace Stsc

def name : FourCC := .ofChars 's' 't' 's' 'c'

def new (entries : List StscEntry) : Stsc := ⟨.new name 0 0, entries⟩

def readEntry : Reader IoFault StscEntry := do
  let firstChunk ← readU32
  let samplesPerChunk ← readU32
  let sampleDescriptionIndex ← readU32
  return ⟨firstChunk, samplesPerChunk, sampleDescriptionIndex⟩

def read (memory : Memory) (header : BoxHeader) : Reader IoFault Stsc := do
  let (header, entries) ← readTable memory header fun _ => readEntry
  return ⟨header, entries⟩

def entryBytes (entry : StscEntry) : Bytes :=
  beU32 entry.firstChunk ++ beU32 entry.samplesPerChunk ++ beU32 entry.sampleDescriptionIndex

instance : BoxType Stsc where
  name := name
  demux build header data := (read build.memory header).parse data
  primitiveSize stsc := tableSize stsc.header 12 stsc.entries
  primitiveMux stsc := muxTable stsc.header entryBytes stsc.entries
  validate stsc := stsc.header.checkPlain "stsc box"

theorem length_entryBytes (entry : StscEntry) : (entryBytes entry).length = 12 := by
  rw [entryBytes, List.length_append, List.length_append, length_beU32, length_beU32, length_beU32]

instance : ExactSize Stsc := ⟨fun _ _ _ written => length_muxTable length_entryBytes written⟩

instance : Returns readEntry := Returns.bind

end Stsc

structure Stco where
  header : FullBoxHeader
  entries : List UInt32
  deriving DecidableEq, Repr

namespace Stco

def name : FourCC := .ofChars 's' 't' 'c' 'o'

def new (entries : List UInt32) : Stco := ⟨.new name 0 0, entries⟩

def read (memory : Memory) (header : BoxHeader) : Reader IoFault Stco := do
  let (header, entries) ← readTable memory header fun _ => readU32
  return ⟨header, entries⟩

instance : BoxType Stco where
  name := name
  demux build header data := (read build.memory header).parse data
  primitiveSize stco := tableSize stco.header 4 stco.entries
  primitiveMux stco := muxTable stco.header beU32 stco.entries
  validate stco := stco.header.checkPlain "stco box"

instance : ExactSize Stco := ⟨fun _ _ _ written => length_muxTable length_beU32 written⟩

end Stco

/-- The large offsets are held, read and written as 32-bit numbers. -/
structure Co64 where
  header : FullBoxHeader
  chunkOffset : List UInt32
  deriving DecidableEq, Repr

namespace Co64

def name : FourCC := .ofChars 'c' 'o' '6' '4'

def read (memory : Memory) (header : BoxHeader) : Reader IoFault Co64 := do
  let (header, chunkOffset) ← readTable memory header fun _ => readU32
  return ⟨header, chunkOffset⟩

/-- The one table that looks at its flags before its version. -/
def validate (co64 : Co64) : Except IoFault Unit := do
  refuse (co64.header.flags != 0) "co64 flags must be 0"
  refuse (co64.header.version != 0) "co64 version must be 0"

instance : BoxType Co64 where
  name := name
  demux build header data := (read build.memory header).parse data
  primitiveSize co64 := tableSize co64.header 4 co64.chunkOffset
  primitiveMux co64 := muxTable co64.header beU32 co64.chunkOffset
  validate := validate

instance : ExactSize Co64 := ⟨fun _ _ _ written => length_muxTable length_beU32 written⟩

end Co64

/-! ## Sync samples -/

structure Stss where
  header : FullBoxHeader
  entries : List UInt32
  deriving DecidableEq, Repr

namespace Stss

def name : FourCC := .ofChars 's' 't' 's' 's'

def read (memory : Memory) (header : BoxHeader) : Reader IoFault Stss := do
  let (header, entries) ← readTable memory header fun _ => readU32
  return ⟨header, entries⟩

instance : BoxType Stss where
  name := name
  demux build header data := (read build.memory header).parse data
  primitiveSize stss := tableSize stss.header 4 stss.entries
  primitiveMux stss := muxTable stss.header beU32 stss.entries
  validate stss := stss.header.checkPlain "stss"

instance : ExactSize Stss := ⟨fun _ _ _ written => length_muxTable length_beU32 written⟩

end Stss

structure StshEntry where
  shadowedSampleCount : UInt32
  syncSampleNumber : UInt32
  deriving DecidableEq, Repr

structure Stsh where
  header : FullBoxHeader
  entries : List StshEntry
  deriving DecidableEq, Repr

namespace Stsh

def name : FourCC := .ofChars 's' 't' 's' 'h'

def readEntry : Reader IoFault StshEntry := do
  let shadowedSampleCount ← readU32
  let syncSampleNumber ← readU32
  return ⟨shadowedSampleCount, syncSampleNumber⟩

def read (memory : Memory) (header : BoxHeader) : Reader IoFault Stsh := do
  let (header, entries) ← readTable memory header fun _ => readEntry
  return ⟨header, entries⟩

def entryBytes (entry : StshEntry) : Bytes :=
  beU32 entry.shadowedSampleCount ++ beU32 entry.syncSampleNumber

instance : BoxType Stsh where
  name := name
  demux build header data := (read build.memory header).parse data
  primitiveSize stsh := tableSize stsh.header 8 stsh.entries
  primitiveMux stsh := muxTable stsh.header entryBytes stsh.entries
  validate stsh := stsh.header.checkPlain "stsh"

theorem length_entryBytes (entry : StshEntry) : (entryBytes entry).length = 8 := by
  rw [entryBytes, List.length_append, length_beU32, length_beU32]

instance : ExactSize Stsh := ⟨fun _ _ _ written => length_muxTable length_entryBytes written⟩

instance : Returns readEntry := Returns.bind

end Stsh

/-! ## Sample sizes -/

structure Stsz where
  header : FullBoxHeader
  sampleSize : UInt32
  samples : List UInt32
  deriving DecidableEq, Repr

namespace Stsz

def name : FourCC := .ofChars 's' 't' 's' 'z'

def new (sampleSize : UInt32) (samples : List UInt32) : Stsz := ⟨.new name 0 0, sampleSize, samples⟩

/-- A common size stands in place of the list. -/
def read (memory : Memory) (header : BoxHeader) : Reader IoFault Stsz := do
  let full ← FullBoxHeader.demux header
  let sampleSize ← readU32
  let sampleCount ← readU32
  allocate memory header.boxType sampleCount.toNat
  let samples ← if sampleSize = 0 then repeated readU32 sampleCount.toNat else pure []
  return ⟨full, sampleSize, samples⟩

def primitiveSize (stsz : Stsz) : Nat :=
  if stsz.sampleSize = 0 then stsz.header.size + 8 + stsz.samples.length * 4
  else stsz.header.size + 8

def body (stsz : Stsz) : Bytes :=
  beU32 stsz.sampleSize ++ beU32 (UInt32.ofNat stsz.samples.length) ++
    if stsz.sampleSize = 0 then stsz.samples.flatMap beU32 else []

def primitiveMux (stsz : Stsz) : Except IoFault Bytes := do
  let header ← stsz.header.mux
  return header ++ stsz.body

def validate (stsz : Stsz) : Except IoFault Unit := do
  refuse (stsz.sampleSize != 0 && !stsz.samples.isEmpty)
    "stsz: sample_size is not 0 but samples are present"
  stsz.header.checkPlain "stsz box"

instance : BoxType Stsz where
  name := name
  demux build header data := (read build.memory header).parse data
  primitiveSize := primitiveSize
  primitiveMux := primitiveMux
  validate := validate

theorem length_body (stsz : Stsz) :
    stsz.header.size + stsz.body.length = stsz.primitiveSize := by
  unfold body primitiveSize
  rw [List.length_append, List.length_append, length_beU32, length_beU32]
  split
  · rw [length_flatMap_const length_beU32]
    omega
  · rfl

instance : ExactSize Stsz :=
  ⟨fun stsz _ _ written => (FullBoxHeader.length_headed written).trans stsz.length_body⟩

end Stsz

/-! ## Compact sample sizes -/

structure Stz2 where
  header : FullBoxHeader
  reserved : UInt32
  fieldSize : UInt8
  samples : List UInt16
  deriving DecidableEq, Repr

namespace Stz2

def name : FourCC := .ofChars 's' 't' 'z' '2'

/-- The loop of `demux` for so many samples that are still missing.  A byte of
4-bit sizes has two of them, of which the last byte may leave one unused. -/
def readSamples (fieldSize : UInt8) : Nat → Reader IoFault (List UInt16)
  | 0 => pure []
  | 1 =>
      if fieldSize = 4 then do
        let byte ← readU8
        return [(byte >>> 4).toUInt16]
      else if fieldSize = 8 then do
        let byte ← readU8
        return [byte.toUInt16]
      else if fieldSize = 16 then do
        let sample ← readU16
        return [sample]
      else fail (.invalidData "Invalid field size")
  | count + 2 =>
      if fieldSize = 4 then do
        let byte ← readU8
        let samples ← readSamples fieldSize count
        return (byte >>> 4).toUInt16 :: (byte &&& 0x0F).toUInt16 :: samples
      else if fieldSize = 8 then do
        let byte ← readU8
        let samples ← readSamples fieldSize (count + 1)
        return byte.toUInt16 :: samples
      else if fieldSize = 16 then do
        let sample ← readU16
        let samples ← readSamples fieldSize (count + 1)
        return sample :: samples
      else fail (.invalidData "Invalid field size")

def read (memory : Memory) (header : BoxHeader) : Reader IoFault Stz2 := do
  let full ← FullBoxHeader.demux header
  let reserved ← readU24
  let fieldSize ← readU8
  let sampleCount ← readU32
  allocate memory header.boxType sampleCount.toNat
  let samples ← readSamples fieldSize sampleCount.toNat
  return ⟨full, reserved, fieldSize, samples⟩

/-- Takes the bits of a sample for bytes. -/
def primitiveSize (stz2 : Stz2) : Nat :=
  stz2.header.size + 8 + stz2.samples.length * stz2.fieldSize.toNat

/-- The loop of `primitive_mux` over the samples that are not written yet. -/
def samplesBytes (fieldSize : UInt8) : List UInt16 → Except IoFault Bytes
  | [] => .ok []
  | [sample] =>
      if fieldSize = 4 then .ok [(sample <<< 4).toUInt8]
      else if fieldSize = 8 then .ok [sample.toUInt8]
      else if fieldSize = 16 then .ok (beU16 sample)
      else .error (.invalidData "Invalid field size")
  | sample :: next :: samples =>
      if fieldSize = 4 then do
        let rest ← samplesBytes fieldSize samples
        return ((sample <<< 4).toUInt8 ||| (next &&& 0x0F).toUInt8) :: rest
      else if fieldSize = 8 then do
        let rest ← samplesBytes fieldSize (next :: samples)
        return sample.toUInt8 :: rest
      else if fieldSize = 16 then do
        let rest ← samplesBytes fieldSize (next :: samples)
        return beU16 sample ++ rest
      else .error (.invalidData "Invalid field size")

def primitiveMux (stz2 : Stz2) : Except IoFault Bytes := do
  let header ← stz2.header.mux
  let reserved ← writeU24 stz2.reserved
  let samples ← samplesBytes stz2.fieldSize stz2.samples
  return header ++ (reserved ++ [stz2.fieldSize] ++ beU32 (UInt32.ofNat stz2.samples.length) ++
    samples)

/-- The check of one sample against the field size. -/
def checkSample (fieldSize : UInt8) (sample : UInt16) : Except IoFault Unit :=
  if fieldSize = 4 then refuse (0x0F < sample) "stz2 sample value must be 4 bits"
  else refuse (fieldSize == 8 && decide (0xFF < sample)) "stz2 sample value must be 8 bits"

def validate (stz2 : Stz2) : Except IoFault Unit := do
  refuse (stz2.header.version != 0) "stz2 version must be 0"
  refuse (stz2.reserved != 0) "stz2 reserved must be 0"
  refuse (stz2.fieldSize != 4 && stz2.fieldSize != 8 && stz2.fieldSize != 16)
    "stz2 field_size must be 4, 8 or 16"
  if stz2.fieldSize != 16 then stz2.samples.forM (checkSample stz2.fieldSize) else .ok ()

instance : BoxType Stz2 where
  name := name
  demux build header data := (read build.memory header).parse data
  primitiveSize := primitiveSize
  primitiveMux := primitiveMux
  validate := validate

/-- At most two bytes are written for a sample, and only with a field size that
counts more than that. -/
theorem length_samplesBytes {fieldSize : UInt8} {samples : List UInt16} {bytes : Bytes}
    (written : samplesBytes fieldSize samples = .ok bytes) :
    bytes.length ≤ samples.length * 2 ∧ (samples ≠ [] → 4 ≤ fieldSize.toNat) := by
  induction samples using samplesBytes.induct fieldSize generalizing bytes with
  | case1 =>
      cases written
      exact ⟨Nat.le_refl 0, fun nonempty => absurd rfl nonempty⟩
  | case2 sample nibble =>
      rw [samplesBytes, if_pos nibble] at written
      cases written
      exact ⟨Nat.le_succ 1, fun _ => by rw [nibble]; decide⟩
  | case3 sample notNibble octet =>
      rw [samplesBytes, if_neg notNibble, if_pos octet] at written
      cases written
      exact ⟨Nat.le_succ 1, fun _ => by rw [octet]; decide⟩
  | case4 sample notNibble notOctet wide =>
      rw [samplesBytes, if_neg notNibble, if_neg notOctet, if_pos wide] at written
      cases written
      exact ⟨Nat.le_of_eq (length_beU16 sample), fun _ => by rw [wide]; decide⟩
  | case5 sample notNibble notOctet notWide =>
      rw [samplesBytes, if_neg notNibble, if_neg notOctet, if_neg notWide] at written
      cases written
  | case6 sample next samples nibble ih =>
      rw [samplesBytes, if_pos nibble] at written
      obtain ⟨rest, restWritten, same⟩ := sequence_eq_ok_iff.mp written
      cases same
      have few := (ih restWritten).1
      simp only [List.length_cons]
      exact ⟨by omega, fun _ => by rw [nibble]; decide⟩
  | case7 sample next samples notNibble octet ih =>
      rw [samplesBytes, if_neg notNibble, if_pos octet] at written
      obtain ⟨rest, restWritten, same⟩ := sequence_eq_ok_iff.mp written
      cases same
      have few := (ih restWritten).1
      simp only [List.length_cons] at few ⊢
      exact ⟨by omega, fun _ => by rw [octet]; decide⟩
  | case8 sample next samples notNibble notOctet wide ih =>
      rw [samplesBytes, if_neg notNibble, if_neg notOctet, if_pos wide] at written
      obtain ⟨rest, restWritten, same⟩ := sequence_eq_ok_iff.mp written
      cases same
      have few := (ih restWritten).1
      simp only [List.length_cons, List.length_append, length_beU16] at few ⊢
      exact ⟨by omega, fun _ => by rw [wide]; decide⟩
  | case9 sample next samples notNibble notOctet notWide =>
      rw [samplesBytes, if_neg notNibble, if_neg notOctet, if_neg notWide] at written
      cases written

/-- The measured size is never below the bytes, and equal to them only without
samples. -/
theorem length_primitiveMux {stz2 : Stz2} {payload : Bytes}
    (written : stz2.primitiveMux = .ok payload) :
    payload.length ≤ stz2.primitiveSize ∧
      (payload.length = stz2.primitiveSize ↔ stz2.samples = []) := by
  obtain ⟨header, headerWritten, rest⟩ := sequence_eq_ok_iff.mp written
  obtain ⟨reserved, reservedWritten, rest⟩ := sequence_eq_ok_iff.mp rest
  obtain ⟨bytes, samplesWritten, rest⟩ := sequence_eq_ok_iff.mp rest
  cases rest
  have three : reserved.length = 3 := by
    unfold writeU24 at reservedWritten
    split at reservedWritten
    · cases reservedWritten
      exact length_toBytesBE 3 _
    · cases reservedWritten
  have few := (length_samplesBytes samplesWritten).1
  have wide := (length_samplesBytes samplesWritten).2
  simp only [List.length_append, List.length_singleton, length_beU32, three,
    FullBoxHeader.length_mux headerWritten, primitiveSize]
  cases samples : stz2.samples with
  | nil =>
      rw [samples] at few
      rw [List.length_nil] at few ⊢
      exact ⟨by omega, fun _ => rfl, fun _ => by omega⟩
  | cons sample others =>
      rw [samples] at few wide
      have large : (sample :: others).length * 4 ≤
          (sample :: others).length * stz2.fieldSize.toNat :=
        Nat.mul_le_mul_left _ (wide (List.cons_ne_nil _ _))
      have positive : 0 < (sample :: others).length := Nat.succ_pos _
      refine ⟨by omega, fun same => ?_, nofun⟩
      omega

instance (fieldSize : UInt8) (count : Nat) : Returns (readSamples fieldSize count) := by
  induction count using readSamples.induct fieldSize with
  | case1 => exact Returns.pure []
  | case2 nibble => exact Returns.ite
  | case3 notNibble octet => exact Returns.ite
  | case4 notNibble notOctet wide => exact Returns.ite
  | case5 notNibble notOctet notWide => exact Returns.ite
  | case6 count nibble ih =>
      rw [readSamples, if_pos nibble]
      exact Returns.bind
  | case7 count notNibble octet ih =>
      rw [readSamples, if_neg notNibble, if_pos octet]
      exact Returns.bind
  | case8 count notNibble notOctet wide ih =>
      rw [readSamples, if_neg notNibble, if_neg notOctet, if_pos wide]
      exact Returns.bind
  | case9 count notNibble notOctet notWide =>
      rw [readSamples, if_neg notNibble, if_neg notOctet, if_neg notWide]
      exact Returns.invalidData _

end Stz2

/-! ## Padding bits -/

structure Padb where
  header : FullBoxHeader
  samples : List UInt8
  deriving DecidableEq, Repr

namespace Padb

def name : FourCC := .ofChars 'p' 'a' 'd' 'b'

/-- Two samples share a byte. -/
def read (memory : Memory) (header : BoxHeader) : Reader IoFault Padb := do
  let full ← FullBoxHeader.demux header
  let sampleCount ← readU32
  let byteCount := (sampleCount.toNat + 1) / 2
  allocate memory header.boxType byteCount
  let samples ← repeated readU8 byteCount
  return ⟨full, samples⟩

def primitiveSize (padb : Padb) : Nat := padb.header.size + 4 + padb.samples.length

/-- The number of samples in so many bytes.  It leaves the range of 32 bits for no
bytes at all and from `2 ^ 31` bytes on, where a build that traps overflow panics. -/
def sampleCount (checks : OverflowChecks) (samples : List UInt8) : Except IoFault UInt32 :=
  if checks = .on ∧
      (UInt32.ofNat samples.length = 0 ∨ 2 ^ 32 ≤ (UInt32.ofNat samples.length).toNat * 2) then
    .error .panic
  else .ok (UInt32.ofNat samples.length * 2 - 1)

def muxChecked (checks : OverflowChecks) (padb : Padb) : Except IoFault Bytes := do
  let header ← padb.header.mux
  let count ← sampleCount checks padb.samples
  return header ++ (beU32 count ++ padb.samples)

/-- The box is written as in a build whose arithmetic wraps: what a build that
traps overflow writes is the same. -/
instance : BoxType Padb where
  name := name
  demux build header data := (read build.memory header).parse data
  primitiveSize := primitiveSize
  primitiveMux := muxChecked .off
  validate padb := padb.header.checkPlain "padb box"

instance : ExactSize Padb where
  exact padb payload _ written := by
    obtain ⟨header, headerWritten, rest⟩ := sequence_eq_ok_iff.mp written
    obtain ⟨count, _, rest⟩ := sequence_eq_ok_iff.mp rest
    cases rest
    rw [List.length_append, List.length_append, FullBoxHeader.length_mux headerWritten, length_beU32,
      ← Nat.add_assoc]
    rfl

end Padb

/-! ## Degradation priorities and dependencies -/

structure Stdp where
  header : FullBoxHeader
  samples : List UInt16
  deriving DecidableEq, Repr

namespace Stdp

def name : FourCC := .ofChars 's' 't' 'd' 'p'

/-- A sample is read while more than one byte remains. -/
def read (header : BoxHeader) : Reader IoFault Stdp := do
  let header ← FullBoxHeader.demux header
  let left ← remaining
  let samples ← repeated readU16 (left / 2)
  return ⟨header, samples⟩

def primitiveSize (stdp : Stdp) : Nat := stdp.header.size + stdp.samples.length * 2

def primitiveMux (stdp : Stdp) : Except IoFault Bytes := do
  let header ← stdp.header.mux
  return header ++ stdp.samples.flatMap beU16

instance : BoxType Stdp where
  name := name
  demux _ header data := (read header).parse data
  primitiveSize := primitiveSize
  primitiveMux := primitiveMux
  validate stdp := stdp.header.checkPlain "stdp"

instance (header : BoxHeader) : Returns (read header) := Returns.bind

instance : DemuxReturns Stdp := ⟨fun _ _ _ _ failed => Returns.parse failed⟩

instance : ExactSize Stdp where
  exact stdp payload _ written := by
    rw [FullBoxHeader.length_headed written, length_flatMap_const length_beU16]
    rfl

end Stdp

structure SdtpEntry where
  sampleIsLeading : UInt8
  sampleDependsOn : UInt8
  sampleIsDependedOn : UInt8
  sampleHasRedundancy : UInt8
  deriving DecidableEq, Repr

structure Sdtp where
  header : FullBoxHeader
  entries : List SdtpEntry
  deriving DecidableEq, Repr

namespace Sdtp

def name : FourCC := .ofChars 's' 'd' 't' 'p'

def ofByte (byte : UInt8) : SdtpEntry where
  sampleIsLeading := (byte &&& 0b11000000) >>> 6
  sampleDependsOn := (byte &&& 0b00110000) >>> 4
  sampleIsDependedOn := (byte &&& 0b00001100) >>> 2
  sampleHasRedundancy := byte &&& 0b00000011

def read (header : BoxHeader) : Reader IoFault Sdtp := do
  let header ← FullBoxHeader.demux header
  let bytes ← extractRemaining
  return ⟨header, bytes.map ofByte⟩

def primitiveSize (sdtp : Sdtp) : Nat := sdtp.header.size + sdtp.entries.length

def entryByte (entry : SdtpEntry) : UInt8 :=
  (entry.sampleIsLeading <<< 6) ||| (entry.sampleDependsOn <<< 4) |||
    (entry.sampleIsDependedOn <<< 2) ||| entry.sampleHasRedundancy

def primitiveMux (sdtp : Sdtp) : Except IoFault Bytes := do
  let header ← sdtp.header.mux
  return header ++ sdtp.entries.map entryByte

instance : BoxType Sdtp where
  name := name
  demux _ header data := (read header).parse data
  primitiveSize := primitiveSize
  primitiveMux := primitiveMux
  validate sdtp := sdtp.header.checkPlain "sdtp box"

instance : ExactSize Sdtp where
  exact sdtp payload _ written := by
    rw [FullBoxHeader.length_headed written, List.length_map]
    rfl

instance (header : BoxHeader) : Returns (read header) := Returns.bind

instance : DemuxReturns Sdtp := ⟨fun _ _ _ _ failed => Returns.parse failed⟩

end Sdtp

end ScuffleVideo.Mp4
