import ScuffleVideo.Mp4.FragmentBoxes
import ScuffleVideo.Mp4.SampleTable
import ScuffleVideo.Wire.Text

/-!
# The plain boxes of a movie

The file type, the headers of movie, track and media with their times, the edit
list, the handler, the media headers and the data reference.  Times have 64 bits
in version 1 and 32 bits otherwise.  All of them but the file type return from
every payload; the file type cuts its payload without looking at its length.
-/

namespace ScuffleVideo.Mp4

open Wire Wire.Reader

open Tfdt (readTime timeBytes length_timeBytes)

/-- A fixed-point number with 16 fractional bits. -/
structure FixedI32 where
  bits : Int32
  deriving DecidableEq, Repr

/-- A fixed-point number with 8 fractional bits. -/
structure FixedI16 where
  bits : Int16
  deriving DecidableEq, Repr

/-- A number without fraction.  From `2 ^ 15` on it does not fit. -/
def FixedI32.fromNum (checks : OverflowChecks) (number : UInt32) : Except IoFault FixedI32 :=
  if checks = .on ∧ 2 ^ 15 ≤ number.toNat then .error .panic else .ok ⟨(number <<< 16).toInt32⟩

def FixedI16.zero : FixedI16 := ⟨0⟩

def FixedI16.one : FixedI16 := ⟨0x0100⟩

/-- The bytes of an array of 32-bit fields. -/
def arrayBytes {count : Nat} (values : Vector UInt32 count) : Bytes := values.toList.flatMap beU32

@[simp]
theorem length_arrayBytes {count : Nat} (values : Vector UInt32 count) :
    (arrayBytes values).length = count * 4 := by
  rw [arrayBytes, length_flatMap_const length_beU32, Vector.length_toList]

/-- A time of a version 0 header must fit in 32 bits. -/
def checkTime (header : FullBoxHeader) (time : UInt64) (subject : String) : Except IoFault Unit :=
  refuse (header.version == 0 && decide (u32Max < time.toNat)) (subject ++ " must be less than 2^32")

/-! ## File type -/

namespace Ftyp

/-- The codes a file type names, those it knows in constructors of their own. -/
inductive FourCC where
  | iso5
  | iso6
  | mp41
  | avc1
  | av01
  | hev1
  | unknown (bytes : Wire.FourCC)
  deriving DecidableEq, Repr

namespace FourCC

def toBytes : FourCC → Wire.FourCC
  | .iso5 => .ofChars 'i' 's' 'o' '5'
  | .iso6 => .ofChars 'i' 's' 'o' '6'
  | .mp41 => .ofChars 'm' 'p' '4' '1'
  | .avc1 => .ofChars 'a' 'v' 'c' '1'
  | .av01 => .ofChars 'a' 'v' '0' '1'
  | .hev1 => .ofChars 'h' 'e' 'v' '1'
  | .unknown bytes => bytes

def ofBytes (bytes : Wire.FourCC) : FourCC :=
  if bytes = toBytes .iso5 then .iso5
  else if bytes = toBytes .iso6 then .iso6
  else if bytes = toBytes .mp41 then .mp41
  else if bytes = toBytes .avc1 then .avc1
  else if bytes = toBytes .av01 then .av01
  else if bytes = toBytes .hev1 then .hev1
  else .unknown bytes

end FourCC

end Ftyp

structure Ftyp where
  header : BoxHeader
  majorBrand : Ftyp.FourCC
  minorVersion : UInt32
  compatibleBrands : List Ftyp.FourCC
  deriving DecidableEq, Repr

namespace Ftyp

def name : Wire.FourCC := .ofChars 'f' 't' 'y' 'p'

def new (majorBrand : FourCC) (minorVersion : UInt32) (compatibleBrands : List FourCC) : Ftyp :=
  ⟨⟨name⟩, majorBrand, minorVersion, compatibleBrands⟩

/-- The brands of the rest of a payload, as long as it has four bytes. -/
def readBrands : Bytes → List FourCC
  | first :: second :: third :: fourth :: rest =>
      .ofBytes ⟨first, second, third, fourth⟩ :: readBrands rest
  | _ => []

/-- Slicing a payload of fewer than eight bytes panics. -/
def demux (header : BoxHeader) (data : Bytes) : Except IoFault Ftyp :=
  match data with
  | first :: second :: third :: fourth :: version0 :: version1 :: version2 :: version3 :: rest =>
      .ok ⟨header, .ofBytes ⟨first, second, third, fourth⟩,
        UInt32.ofNat (ofBytesBE [version0, version1, version2, version3]), readBrands rest⟩
  | _ => .error .panic

def primitiveSize (ftyp : Ftyp) : Nat := 4 + 4 + ftyp.compatibleBrands.length * 4

def payload (ftyp : Ftyp) : Bytes :=
  ftyp.majorBrand.toBytes.bytes ++ beU32 ftyp.minorVersion ++
    ftyp.compatibleBrands.flatMap fun brand => brand.toBytes.bytes

instance : BoxType Ftyp where
  name := name
  demux _ := demux
  primitiveSize := primitiveSize
  primitiveMux ftyp := .ok ftyp.payload
  validate _ := .ok ()

theorem length_payload (ftyp : Ftyp) : ftyp.payload.length = ftyp.primitiveSize := by
  have brands : (ftyp.compatibleBrands.flatMap fun brand => brand.toBytes.bytes).length =
      ftyp.compatibleBrands.length * 4 :=
        length_flatMap_const (fun brand : FourCC => brand.toBytes.length_bytes) _
  rw [payload, List.length_append, List.length_append, brands, length_beU32]
  rfl

instance : ExactSize Ftyp where
  exact ftyp payload _ written := by
    cases written
    exact ftyp.length_payload

/-- Exactly the payloads that are too short panic; no payload is refused. -/
theorem demux_cases (header : BoxHeader) (data : Bytes) :
    (data.length < 8 ∧ demux header data = .error .panic) ∨
      8 ≤ data.length ∧ ∃ ftyp, demux header data = .ok ftyp := by
  unfold demux
  split
  · exact .inr ⟨by simp only [List.length_cons]; omega, _, rfl⟩
  · rename_i short
    refine .inl ⟨?_, rfl⟩
    rcases data with _ | ⟨a, _ | ⟨b, _ | ⟨c, _ | ⟨d, _ | ⟨e, _ | ⟨f, _ | ⟨g, _ | ⟨h, rest⟩⟩⟩⟩⟩⟩⟩⟩
    all_goals first
      | exact absurd rfl (short a b c d e f g h rest)
      | (simp only [List.length_cons, List.length_nil]; omega)

end Ftyp

/-! ## Movie header -/

structure Mvhd where
  header : FullBoxHeader
  creationTime : UInt64
  modificationTime : UInt64
  timescale : UInt32
  duration : UInt64
  rate : FixedI32
  volume : FixedI16
  reserved : UInt16
  reserved2 : Vector UInt32 2
  matrix : Vector UInt32 9
  preDefined : Vector UInt32 6
  nextTrackId : UInt32
  deriving DecidableEq, Repr

namespace Mvhd

def name : FourCC := .ofChars 'm' 'v' 'h' 'd'

def unityMatrix : Vector UInt32 9 := #v[0x00010000, 0, 0, 0, 0x00010000, 0, 0, 0, 0x40000000]

def new (creationTime modificationTime : UInt64) (timescale : UInt32) (duration : UInt64)
    (nextTrackId : UInt32) : Mvhd where
  header := .new name 0 0
  creationTime := creationTime
  modificationTime := modificationTime
  timescale := timescale
  duration := duration
  rate := ⟨0x00010000⟩
  volume := .one
  reserved := 0
  reserved2 := .replicate 2 0
  matrix := unityMatrix
  preDefined := .replicate 6 0
  nextTrackId := nextTrackId

def read (header : BoxHeader) : Reader IoFault Mvhd := do
  let header ← FullBoxHeader.demux header
  let creationTime ← readTime header.version
  let modificationTime ← readTime header.version
  let timescale ← readU32
  let duration ← readTime header.version
  let rate ← readI32
  let volume ← readI16
  let reserved ← readU16
  let reserved2 ← readArray readU32 2
  let matrix ← readArray readU32 9
  let preDefined ← readArray readU32 6
  let nextTrackId ← readU32
  return ⟨header, creationTime, modificationTime, timescale, duration, ⟨rate⟩, ⟨volume⟩, reserved,
    reserved2, matrix, preDefined, nextTrackId⟩

def primitiveSize (mvhd : Mvhd) : Nat :=
  mvhd.header.size + (if mvhd.header.version = 1 then 8 + 8 + 4 + 8 else 4 + 4 + 4 + 4) +
    (4 + 2 + 2) + 4 * 2 + 4 * 9 + 4 * 6 + 4

def body (mvhd : Mvhd) : Bytes :=
  timeBytes mvhd.header.version mvhd.creationTime ++
    (timeBytes mvhd.header.version mvhd.modificationTime ++
      (beU32 mvhd.timescale ++ (timeBytes mvhd.header.version mvhd.duration ++
        (beI32 mvhd.rate.bits ++ (beI16 mvhd.volume.bits ++ (beU16 mvhd.reserved ++
          (arrayBytes mvhd.reserved2 ++ (arrayBytes mvhd.matrix ++ (arrayBytes mvhd.preDefined ++
            beU32 mvhd.nextTrackId)))))))))

def primitiveMux (mvhd : Mvhd) : Except IoFault Bytes := do
  let header ← mvhd.header.mux
  return header ++ mvhd.body

def validate (mvhd : Mvhd) : Except IoFault Unit := do
  refuse (mvhd.header.flags != 0) "mvhd flags must be 0"
  refuse (1 < mvhd.header.version) "mvhd version must be 0 or 1"
  checkTime mvhd.header mvhd.creationTime "mvhd creation_time"
  checkTime mvhd.header mvhd.modificationTime "mvhd modification_time"
  checkTime mvhd.header mvhd.duration "mvhd duration"
  refuse (mvhd.reserved != 0) "mvhd reserved must be 0"
  refuse (mvhd.reserved2 != .replicate 2 0) "mvhd reserved2 must be 0"
  refuse (mvhd.preDefined != .replicate 6 0) "mvhd pre_defined must be 0"

instance : BoxType Mvhd where
  name := name
  demux _ header data := (read header).parse data
  primitiveSize := primitiveSize
  primitiveMux := primitiveMux
  validate := validate

theorem length_body (mvhd : Mvhd) :
    mvhd.header.size + mvhd.body.length = mvhd.primitiveSize := by
  unfold body primitiveSize
  simp only [List.length_append, length_timeBytes, length_beU32, length_beI32, length_beI16,
    length_beU16, length_arrayBytes]
  split <;> omega

instance : ExactSize Mvhd :=
  ⟨fun mvhd _ _ written => (FullBoxHeader.length_headed written).trans mvhd.length_body⟩

instance (header : BoxHeader) : Returns (read header) := Returns.bind

instance : DemuxReturns Mvhd := ⟨fun _ _ _ _ failed => Returns.parse failed⟩

end Mvhd

/-! ## Extended movies -/

structure Trex where
  header : FullBoxHeader
  trackId : UInt32
  defaultSampleDescriptionIndex : UInt32
  defaultSampleDuration : UInt32
  defaultSampleSize : UInt32
  defaultSampleFlags : UInt32
  deriving DecidableEq, Repr

namespace Trex

def name : FourCC := .ofChars 't' 'r' 'e' 'x'

def new (trackId : UInt32) : Trex := ⟨.new name 0 0, trackId, 1, 0, 0, 0⟩

def read (header : BoxHeader) : Reader IoFault Trex := do
  let header ← FullBoxHeader.demux header
  let trackId ← readU32
  let defaultSampleDescriptionIndex ← readU32
  let defaultSampleDuration ← readU32
  let defaultSampleSize ← readU32
  let defaultSampleFlags ← readU32
  return ⟨header, trackId, defaultSampleDescriptionIndex, defaultSampleDuration, defaultSampleSize,
    defaultSampleFlags⟩

def primitiveSize (trex : Trex) : Nat := trex.header.size + 4 + 4 + 4 + 4 + 4

def body (trex : Trex) : Bytes :=
  beU32 trex.trackId ++ (beU32 trex.defaultSampleDescriptionIndex ++
    (beU32 trex.defaultSampleDuration ++ (beU32 trex.defaultSampleSize ++
      beU32 trex.defaultSampleFlags)))

def primitiveMux (trex : Trex) : Except IoFault Bytes := do
  let header ← trex.header.mux
  return header ++ trex.body

instance : BoxType Trex where
  name := name
  demux _ header data := (read header).parse data
  primitiveSize := primitiveSize
  primitiveMux := primitiveMux
  validate trex := trex.header.checkPlain "trex"

instance : ExactSize Trex where
  exact trex payload _ written := by
    rw [FullBoxHeader.length_headed written, body]
    simp only [List.length_append, length_beU32]
    rfl

instance (header : BoxHeader) : Returns (read header) := Returns.bind

instance : DemuxReturns Trex := ⟨fun _ _ _ _ failed => Returns.parse failed⟩

end Trex

structure Mehd where
  header : FullBoxHeader
  fragmentDuration : UInt64
  deriving DecidableEq, Repr

namespace Mehd

def name : FourCC := .ofChars 'm' 'e' 'h' 'd'

def read (header : BoxHeader) : Reader IoFault Mehd := do
  let header ← FullBoxHeader.demux header
  let fragmentDuration ← readTime header.version
  return ⟨header, fragmentDuration⟩

def primitiveSize (mehd : Mehd) : Nat :=
  mehd.header.size + if mehd.header.version = 1 then 8 else 4

def primitiveMux (mehd : Mehd) : Except IoFault Bytes := do
  let header ← mehd.header.mux
  return header ++ timeBytes mehd.header.version mehd.fragmentDuration

def validate (mehd : Mehd) : Except IoFault Unit := do
  refuse (1 < mehd.header.version) "mehd version must be 0 or 1"
  checkTime mehd.header mehd.fragmentDuration "mehd fragment_duration"

instance : BoxType Mehd where
  name := name
  demux _ header data := (read header).parse data
  primitiveSize := primitiveSize
  primitiveMux := primitiveMux
  validate := validate

instance : ExactSize Mehd where
  exact mehd payload _ written := by
    rw [FullBoxHeader.length_headed written, length_timeBytes]
    rfl

instance (header : BoxHeader) : Returns (read header) := Returns.bind

instance : DemuxReturns Mehd := ⟨fun _ _ _ _ failed => Returns.parse failed⟩

end Mehd

/-! ## Track and media headers -/

structure Tkhd where
  header : FullBoxHeader
  creationTime : UInt64
  modificationTime : UInt64
  trackId : UInt32
  reserved : UInt32
  duration : UInt64
  reserved2 : Vector UInt32 2
  layer : UInt16
  alternateGroup : UInt16
  volume : FixedI16
  reserved3 : UInt16
  matrix : Vector UInt32 9
  width : FixedI32
  height : FixedI32
  deriving DecidableEq, Repr

/-- The version that has room for the times of a new header. -/
def timesVersion (creationTime modificationTime duration : UInt64) : UInt8 :=
  if u32Max < creationTime.toNat ∨ u32Max < modificationTime.toNat ∨ u32Max < duration.toNat then 1
  else 0

namespace Tkhd

def name : FourCC := .ofChars 't' 'k' 'h' 'd'

def trackEnabledFlag : UInt32 := 0x000001
def trackInMovieFlag : UInt32 := 0x000002

def unityMatrix : Vector UInt32 9 := #v[0x00010000, 0, 0, 0, 0x00010000, 0, 0, 0, 0x40000000]

/-- A track with a picture is silent. -/
def new (checks : OverflowChecks) (creationTime modificationTime : UInt64) (trackId : UInt32)
    (duration : UInt64) (widthHeight : Option (UInt32 × UInt32)) : Except IoFault Tkhd := do
  let (width, height) := widthHeight.getD (0, 0)
  let width ← FixedI32.fromNum checks width
  let height ← FixedI32.fromNum checks height
  return {
    header := .new name (timesVersion creationTime modificationTime duration)
      (trackEnabledFlag ||| trackInMovieFlag)
    creationTime, modificationTime, trackId
    reserved := 0
    duration
    reserved2 := .replicate 2 0
    layer := 0
    alternateGroup := 0
    volume := if widthHeight.isSome then .zero else .one
    reserved3 := 0
    matrix := unityMatrix
    width, height }

def read (header : BoxHeader) : Reader IoFault Tkhd := do
  let header ← FullBoxHeader.demux header
  let creationTime ← readTime header.version
  let modificationTime ← readTime header.version
  let trackId ← readU32
  let reserved ← readU32
  let duration ← readTime header.version
  let reserved2 ← readArray readU32 2
  let layer ← readU16
  let alternateGroup ← readU16
  let volume ← readI16
  let reserved3 ← readU16
  let matrix ← readArray readU32 9
  let width ← readI32
  let height ← readI32
  return ⟨header, creationTime, modificationTime, trackId, reserved, duration, reserved2, layer,
    alternateGroup, ⟨volume⟩, reserved3, matrix, ⟨width⟩, ⟨height⟩⟩

def primitiveSize (tkhd : Tkhd) : Nat :=
  tkhd.header.size + (if tkhd.header.version = 1 then 8 + 8 + 4 + 4 + 8 else 4 + 4 + 4 + 4 + 4) +
    4 * 2 + 2 + 2 + 2 + 2 + 4 * 9 + 4 + 4

def body (tkhd : Tkhd) : Bytes :=
  timeBytes tkhd.header.version tkhd.creationTime ++
    (timeBytes tkhd.header.version tkhd.modificationTime ++
      (beU32 tkhd.trackId ++ (beU32 tkhd.reserved ++
        (timeBytes tkhd.header.version tkhd.duration ++ (arrayBytes tkhd.reserved2 ++
          (beU16 tkhd.layer ++ (beU16 tkhd.alternateGroup ++ (beI16 tkhd.volume.bits ++
            (beU16 tkhd.reserved3 ++ (arrayBytes tkhd.matrix ++ (beI32 tkhd.width.bits ++
              beI32 tkhd.height.bits)))))))))))

def primitiveMux (tkhd : Tkhd) : Except IoFault Bytes := do
  let header ← tkhd.header.mux
  return header ++ tkhd.body

def validate (tkhd : Tkhd) : Except IoFault Unit := do
  refuse (1 < tkhd.header.version) "tkhd version must be 0 or 1"
  refuse (tkhd.trackId == 0) "tkhd track_id must not be 0"
  refuse (tkhd.reserved != 0) "tkhd reserved must be 0"
  refuse (tkhd.reserved2 != .replicate 2 0) "tkhd reserved2 must be 0"
  refuse (tkhd.reserved3 != 0) "tkhd reserved3 must be 0"
  checkTime tkhd.header tkhd.creationTime "tkhd creation_time"
  checkTime tkhd.header tkhd.modificationTime "tkhd modification_time"
  checkTime tkhd.header tkhd.duration "tkhd duration"

instance : BoxType Tkhd where
  name := name
  demux _ header data := (read header).parse data
  primitiveSize := primitiveSize
  primitiveMux := primitiveMux
  validate := validate

theorem length_body (tkhd : Tkhd) :
    tkhd.header.size + tkhd.body.length = tkhd.primitiveSize := by
  unfold body primitiveSize
  simp only [List.length_append, length_timeBytes, length_beU32, length_beI32, length_beI16,
    length_beU16, length_arrayBytes]
  split <;> omega

instance : ExactSize Tkhd :=
  ⟨fun tkhd _ _ written => (FullBoxHeader.length_headed written).trans tkhd.length_body⟩

instance (header : BoxHeader) : Returns (read header) := Returns.bind

instance : DemuxReturns Tkhd := ⟨fun _ _ _ _ failed => Returns.parse failed⟩

end Tkhd

structure Mdhd where
  header : FullBoxHeader
  creationTime : UInt64
  modificationTime : UInt64
  timescale : UInt32
  duration : UInt64
  language : UInt16
  preDefined : UInt16
  deriving DecidableEq, Repr

namespace Mdhd

def name : FourCC := .ofChars 'm' 'd' 'h' 'd'

/-- The language is undetermined. -/
def new (creationTime modificationTime : UInt64) (timescale : UInt32) (duration : UInt64) : Mdhd :=
  ⟨.new name (timesVersion creationTime modificationTime duration) 0, creationTime,
    modificationTime, timescale, duration, 0x55c4, 0⟩

def read (header : BoxHeader) : Reader IoFault Mdhd := do
  let header ← FullBoxHeader.demux header
  let creationTime ← readTime header.version
  let modificationTime ← readTime header.version
  let timescale ← readU32
  let duration ← readTime header.version
  let language ← readU16
  let preDefined ← readU16
  return ⟨header, creationTime, modificationTime, timescale, duration, language, preDefined⟩

def primitiveSize (mdhd : Mdhd) : Nat :=
  mdhd.header.size + (if mdhd.header.version = 1 then 8 + 8 + 4 + 8 else 4 + 4 + 4 + 4) + 2 + 2

def body (mdhd : Mdhd) : Bytes :=
  timeBytes mdhd.header.version mdhd.creationTime ++
    (timeBytes mdhd.header.version mdhd.modificationTime ++
      (beU32 mdhd.timescale ++ (timeBytes mdhd.header.version mdhd.duration ++
        (beU16 mdhd.language ++ beU16 mdhd.preDefined))))

def primitiveMux (mdhd : Mdhd) : Except IoFault Bytes := do
  let header ← mdhd.header.mux
  return header ++ mdhd.body

def validate (mdhd : Mdhd) : Except IoFault Unit := do
  refuse (mdhd.header.flags != 0) "mdhd box flags must be 0"
  refuse (1 < mdhd.header.version) "mdhd box version must be 0 or 1"
  checkTime mdhd.header mdhd.creationTime "mdhd box creation_time"
  checkTime mdhd.header mdhd.modificationTime "mdhd box modification_time"
  checkTime mdhd.header mdhd.duration "mdhd box duration"
  refuse (mdhd.preDefined != 0) "mdhd box pre_defined must be 0"

instance : BoxType Mdhd where
  name := name
  demux _ header data := (read header).parse data
  primitiveSize := primitiveSize
  primitiveMux := primitiveMux
  validate := validate

theorem length_body (mdhd : Mdhd) :
    mdhd.header.size + mdhd.body.length = mdhd.primitiveSize := by
  unfold body primitiveSize
  simp only [List.length_append, length_timeBytes, length_beU32, length_beU16]
  split <;> omega

instance : ExactSize Mdhd :=
  ⟨fun mdhd _ _ written => (FullBoxHeader.length_headed written).trans mdhd.length_body⟩

instance (header : BoxHeader) : Returns (read header) := Returns.bind

instance : DemuxReturns Mdhd := ⟨fun _ _ _ _ failed => Returns.parse failed⟩

end Mdhd

/-! ## Edit list -/

structure ElstEntry where
  segmentDuration : UInt64
  mediaTime : Int64
  mediaRateInteger : Int16
  mediaRateFraction : Int16
  deriving DecidableEq, Repr

structure Elst where
  header : FullBoxHeader
  entries : List ElstEntry
  deriving DecidableEq, Repr

namespace Elst

def name : FourCC := .ofChars 'e' 'l' 's' 't'

def new (entries : List ElstEntry) : Elst := ⟨.new name 0 0, entries⟩

def readMediaTime (version : UInt8) : Reader IoFault Int64 :=
  if version = 1 then readI64 else do return (← readI32).toInt64

def readEntry (header : FullBoxHeader) : Reader IoFault ElstEntry := do
  let segmentDuration ← readTime header.version
  let mediaTime ← readMediaTime header.version
  let mediaRateInteger ← readI16
  let mediaRateFraction ← readI16
  return ⟨segmentDuration, mediaTime, mediaRateInteger, mediaRateFraction⟩

def read (memory : Memory) (header : BoxHeader) : Reader IoFault Elst := do
  let (header, entries) ← readTable memory header readEntry
  return ⟨header, entries⟩

def entryWidth (version : UInt8) : Nat := if version = 1 then 8 + 8 + 2 + 2 else 4 + 4 + 2 + 2

def mediaTimeBytes (version : UInt8) (time : Int64) : Bytes :=
  if version = 1 then beI64 time else beI32 time.toInt32

def entryBytes (version : UInt8) (entry : ElstEntry) : Bytes :=
  timeBytes version entry.segmentDuration ++ (mediaTimeBytes version entry.mediaTime ++
    (beI16 entry.mediaRateInteger ++ beI16 entry.mediaRateFraction))

def checkEntry (entry : ElstEntry) : Except IoFault Unit := do
  refuse (u32Max < entry.segmentDuration.toNat) "elst: segment_duration must be u32"
  refuse (Int32.maxValue.toInt64 < entry.mediaTime) "elst: media_time must be i32"

/-- The entries are held to 32 bits in version 1, which has room for 64. -/
def validate (elst : Elst) : Except IoFault Unit := do
  refuse (elst.header.flags != 0) "elst: version 1 is not supported"
  refuse (1 < elst.header.version) "elst: version must be 0 or 1"
  if elst.header.version = 1 then elst.entries.forM checkEntry else .ok ()

instance : BoxType Elst where
  name := name
  demux build header data := (read build.memory header).parse data
  primitiveSize elst := tableSize elst.header (entryWidth elst.header.version) elst.entries
  primitiveMux elst := muxTable elst.header (entryBytes elst.header.version) elst.entries
  validate := validate

theorem length_entryBytes (version : UInt8) (entry : ElstEntry) :
    (entryBytes version entry).length = entryWidth version := by
  rw [entryBytes, List.length_append, List.length_append, List.length_append, length_timeBytes,
    mediaTimeBytes, entryWidth, length_beI16, length_beI16]
  split
  · rw [length_beI64]
  · rw [length_beI32]

instance : ExactSize Elst := ⟨fun _ _ _ written => length_muxTable (length_entryBytes _) written⟩

instance (version : UInt8) : Returns (readMediaTime version) := Returns.ite

instance (header : FullBoxHeader) : Returns (readEntry header) := Returns.bind

end Elst

/-! ## Handler -/

inductive HandlerType where
  | vide
  | soun
  | hint
  | metadata
  | unknown (bytes : FourCC)
  deriving DecidableEq, Repr

namespace HandlerType

def toBytes : HandlerType → FourCC
  | .vide => .ofChars 'v' 'i' 'd' 'e'
  | .soun => .ofChars 's' 'o' 'u' 'n'
  | .hint => .ofChars 'h' 'i' 'n' 't'
  | .metadata => .ofChars 'm' 'e' 't' 'a'
  | .unknown bytes => bytes

def ofBytes (bytes : FourCC) : HandlerType :=
  if bytes = toBytes .vide then .vide
  else if bytes = toBytes .soun then .soun
  else if bytes = toBytes .hint then .hint
  else if bytes = toBytes .metadata then .metadata
  else .unknown bytes

end HandlerType

structure Hdlr where
  header : FullBoxHeader
  preDefined : UInt32
  handlerType : HandlerType
  reserved : Vector UInt32 3
  name : String
  deriving DecidableEq, Repr

namespace Hdlr

def fourCC : FourCC := .ofChars 'h' 'd' 'l' 'r'

def new (handlerType : HandlerType) (name : String) : Hdlr :=
  ⟨.new fourCC 0 0, 0, handlerType, .replicate 3 0, name⟩

def read (header : BoxHeader) : Reader IoFault Hdlr := do
  let header ← FullBoxHeader.demux header
  let preDefined ← readU32
  let handlerType ← readFourCC
  let reserved ← readArray readU32 3
  let name ← readTerminated
  return ⟨header, preDefined, .ofBytes handlerType, reserved, name⟩

def primitiveSize (hdlr : Hdlr) : Nat :=
  hdlr.header.size + 4 + 4 + 3 * 4 + (asBytes hdlr.name).length + 1

def body (hdlr : Hdlr) : Bytes :=
  beU32 hdlr.preDefined ++ (hdlr.handlerType.toBytes.bytes ++ (arrayBytes hdlr.reserved ++
    (asBytes hdlr.name ++ [0])))

def primitiveMux (hdlr : Hdlr) : Except IoFault Bytes := do
  let header ← hdlr.header.mux
  return header ++ hdlr.body

def validate (hdlr : Hdlr) : Except IoFault Unit := do
  hdlr.header.checkPlain "hdlr"
  refuse (hdlr.reserved != .replicate 3 0) "hdlr reserved must be 0"
  refuse (hdlr.preDefined != 0) "hdlr pre_defined must be 0"

instance : BoxType Hdlr where
  name := fourCC
  demux _ header data := (read header).parse data
  primitiveSize := primitiveSize
  primitiveMux := primitiveMux
  validate := validate

instance : ExactSize Hdlr where
  exact hdlr payload _ written := by
    change _ = hdlr.primitiveSize
    rw [FullBoxHeader.length_headed written, body, primitiveSize]
    simp only [List.length_append, length_beU32, FourCC.length_bytes, length_arrayBytes,
      List.length_singleton]
    omega

instance (header : BoxHeader) : Returns (read header) := Returns.bind

instance : DemuxReturns Hdlr := ⟨fun _ _ _ _ failed => Returns.parse failed⟩

end Hdlr

/-! ## Media headers -/

structure Hmhd where
  header : FullBoxHeader
  maxPduSize : UInt16
  avgPduSize : UInt16
  maxBitrate : UInt32
  avgBitrate : UInt32
  reserved : UInt32
  deriving DecidableEq, Repr

namespace Hmhd

def name : FourCC := .ofChars 'h' 'm' 'h' 'd'

def read (header : BoxHeader) : Reader IoFault Hmhd := do
  let header ← FullBoxHeader.demux header
  let maxPduSize ← readU16
  let avgPduSize ← readU16
  let maxBitrate ← readU32
  let avgBitrate ← readU32
  let reserved ← readU32
  return ⟨header, maxPduSize, avgPduSize, maxBitrate, avgBitrate, reserved⟩

def primitiveSize (hmhd : Hmhd) : Nat := hmhd.header.size + 2 + 2 + 4 + 4 + 4

def body (hmhd : Hmhd) : Bytes :=
  beU16 hmhd.maxPduSize ++ (beU16 hmhd.avgPduSize ++ (beU32 hmhd.maxBitrate ++
    (beU32 hmhd.avgBitrate ++ beU32 hmhd.reserved)))

def primitiveMux (hmhd : Hmhd) : Except IoFault Bytes := do
  let header ← hmhd.header.mux
  return header ++ hmhd.body

def validate (hmhd : Hmhd) : Except IoFault Unit := do
  hmhd.header.checkPlain "hmhd"
  refuse (hmhd.reserved != 0) "hmhd reserved must be 0"

instance : BoxType Hmhd where
  name := name
  demux _ header data := (read header).parse data
  primitiveSize := primitiveSize
  primitiveMux := primitiveMux
  validate := validate

instance : ExactSize Hmhd where
  exact hmhd payload _ written := by
    rw [FullBoxHeader.length_headed written, body]
    simp only [List.length_append, length_beU32, length_beU16]
    rfl

instance (header : BoxHeader) : Returns (read header) := Returns.bind

instance : DemuxReturns Hmhd := ⟨fun _ _ _ _ failed => Returns.parse failed⟩

end Hmhd

structure Nmhd where
  header : FullBoxHeader
  deriving DecidableEq, Repr

namespace Nmhd

def name : FourCC := .ofChars 'n' 'm' 'h' 'd'

def read (header : BoxHeader) : Reader IoFault Nmhd := do
  let header ← FullBoxHeader.demux header
  return ⟨header⟩

instance : BoxType Nmhd where
  name := name
  demux _ header data := (read header).parse data
  primitiveSize nmhd := nmhd.header.size
  primitiveMux nmhd := nmhd.header.mux
  validate nmhd := refuse (nmhd.header.version != 0) "nmhd box version must be 0"

instance : ExactSize Nmhd := ⟨fun _ _ _ written => FullBoxHeader.length_mux written⟩

instance (header : BoxHeader) : Returns (read header) := Returns.bind

instance : DemuxReturns Nmhd := ⟨fun _ _ _ _ failed => Returns.parse failed⟩

end Nmhd

structure Smhd where
  header : FullBoxHeader
  balance : FixedI16
  reserved : UInt16
  deriving DecidableEq, Repr

namespace Smhd

def name : FourCC := .ofChars 's' 'm' 'h' 'd'

def new : Smhd := ⟨.new name 0 0, .zero, 0⟩

def read (header : BoxHeader) : Reader IoFault Smhd := do
  let header ← FullBoxHeader.demux header
  let balance ← readI16
  let reserved ← readU16
  return ⟨header, ⟨balance⟩, reserved⟩

def primitiveSize (smhd : Smhd) : Nat := smhd.header.size + 2 + 2

def body (smhd : Smhd) : Bytes := beI16 smhd.balance.bits ++ beU16 smhd.reserved

def primitiveMux (smhd : Smhd) : Except IoFault Bytes := do
  let header ← smhd.header.mux
  return header ++ smhd.body

def validate (smhd : Smhd) : Except IoFault Unit := do
  smhd.header.checkPlain "smhd"
  refuse (smhd.reserved != 0) "smhd reserved must be 0"

instance : BoxType Smhd where
  name := name
  demux _ header data := (read header).parse data
  primitiveSize := primitiveSize
  primitiveMux := primitiveMux
  validate := validate

instance : ExactSize Smhd where
  exact smhd payload _ written := by
    rw [FullBoxHeader.length_headed written, body]
    simp only [List.length_append, length_beI16, length_beU16]
    rfl

instance (header : BoxHeader) : Returns (read header) := Returns.bind

instance : DemuxReturns Smhd := ⟨fun _ _ _ _ failed => Returns.parse failed⟩

end Smhd

structure Vmhd where
  header : FullBoxHeader
  graphicsMode : UInt16
  opcolor : Vector UInt16 3
  deriving DecidableEq, Repr

namespace Vmhd

def name : FourCC := .ofChars 'v' 'm' 'h' 'd'

def new : Vmhd := ⟨.new name 0 1, 0, .replicate 3 0⟩

def read (header : BoxHeader) : Reader IoFault Vmhd := do
  let header ← FullBoxHeader.demux header
  let graphicsMode ← readU16
  let opcolor ← readArray readU16 3
  return ⟨header, graphicsMode, opcolor⟩

def primitiveSize (vmhd : Vmhd) : Nat := vmhd.header.size + 2 + 2 * 3

def body (vmhd : Vmhd) : Bytes := beU16 vmhd.graphicsMode ++ vmhd.opcolor.toList.flatMap beU16

def primitiveMux (vmhd : Vmhd) : Except IoFault Bytes := do
  let header ← vmhd.header.mux
  return header ++ vmhd.body

instance : BoxType Vmhd where
  name := name
  demux _ header data := (read header).parse data
  primitiveSize := primitiveSize
  primitiveMux := primitiveMux
  validate _ := .ok ()

instance : ExactSize Vmhd where
  exact vmhd payload _ written := by
    rw [FullBoxHeader.length_headed written, body, List.length_append, length_beU16,
      length_flatMap_const length_beU16, Vector.length_toList]
    rfl

instance (header : BoxHeader) : Returns (read header) := Returns.bind

instance : DemuxReturns Vmhd := ⟨fun _ _ _ _ failed => Returns.parse failed⟩

end Vmhd

/-! ## Data reference -/

structure Url where
  header : FullBoxHeader
  location : Option String
  deriving DecidableEq, Repr

namespace Url

def name : FourCC := .ofChars 'u' 'r' 'l' ' '

def new : Url := ⟨.new name 0 1, none⟩

/-- A location follows exactly when no flag is set. -/
def read (header : BoxHeader) : Reader IoFault Url := do
  let header ← FullBoxHeader.demux header
  let location ← optionally (header.flags == 0) readTerminated
  return ⟨header, location⟩

def primitiveSize (url : Url) : Nat :=
  url.header.size + match url.location with
    | some location => (asBytes location).length + 1
    | none => 0

def primitiveMux (url : Url) : Except IoFault Bytes := do
  let header ← url.header.mux
  return header ++ optional (fun location => asBytes location ++ [0]) url.location

def validate (url : Url) : Except IoFault Unit := do
  refuse (url.header.version != 0) "url version must be 0"
  refuse (url.header.flags != 0 && url.location.isSome) "url location must be empty if flags is 1"
  refuse (url.header.flags == 0 && url.location.isNone) "url location must be present if flags is 0"

instance : BoxType Url where
  name := name
  demux _ header data := (read header).parse data
  primitiveSize := primitiveSize
  primitiveMux := primitiveMux
  validate := validate

instance : ExactSize Url where
  exact url payload _ written := by
    change _ = url.primitiveSize
    rw [FullBoxHeader.length_headed written, primitiveSize]
    cases url.location with
    | none => rfl
    | some location => rw [optional_some, List.length_append, List.length_singleton]

instance (header : BoxHeader) : Returns (read header) := Returns.bind

instance : DemuxReturns Url := ⟨fun _ _ _ _ failed => Returns.parse failed⟩

end Url

end ScuffleVideo.Mp4
