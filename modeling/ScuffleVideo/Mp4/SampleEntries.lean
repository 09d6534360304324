import ScuffleVideo.Av1.Config
import ScuffleVideo.H264.Config
import ScuffleVideo.H265.Config
import ScuffleVideo.Mp4.MovieBoxes

/-!
# Sample entries

What a sample entry has beside further boxes: the fields that all entries share,
those of audio and of video, and the boxes that describe a picture, a bit rate
or a decoder.  The fields of a video entry include three boxes; these are read
with the others that follow, and written with the fields.
-/

namespace ScuffleVideo.Mp4

open Wire Wire.Reader

/-! ## Pictures and bit rates -/

structure Clap where
  header : BoxHeader
  cleanApertureWidthN : UInt32
  cleanApertureWidthD : UInt32
  cleanApertureHeightN : UInt32
  cleanApertureHeightD : UInt32
  horizOffN : UInt32
  horizOffD : UInt32
  vertOffN : UInt32
  vertOffD : UInt32
  deriving DecidableEq, Repr

namespace Clap

def name : FourCC := .ofChars 'c' 'l' 'a' 'p'

def read (header : BoxHeader) : Reader IoFault Clap := do
  let cleanApertureWidthN ← readU32
  let cleanApertureWidthD ← readU32
  let cleanApertureHeightN ← readU32
  let cleanApertureHeightD ← readU32
  let horizOffN ← readU32
  let horizOffD ← readU32
  let vertOffN ← readU32
  let vertOffD ← readU32
  return ⟨header, cleanApertureWidthN, cleanApertureWidthD, cleanApertureHeightN,
    cleanApertureHeightD, horizOffN, horizOffD, vertOffN, vertOffD⟩

instance : BoxType Clap where
  name := name
  demux _ header data := (read header).parse data
  primitiveSize _ := 4 + 4 + 4 + 4 + 4 + 4 + 4 + 4
  primitiveMux clap := .ok (beU32 clap.cleanApertureWidthN ++ beU32 clap.cleanApertureWidthD ++
    beU32 clap.cleanApertureHeightN ++ beU32 clap.cleanApertureHeightD ++ beU32 clap.horizOffN ++
    beU32 clap.horizOffD ++ beU32 clap.vertOffN ++ beU32 clap.vertOffD)
  validate _ := .ok ()

instance : ExactSize Clap where
  exact _ _ _ written := by
    cases written
    simp only [List.length_append, length_beU32]
    rfl

instance (header : BoxHeader) : Returns (read header) := Returns.bind

instance : DemuxReturns Clap := ⟨fun _ _ _ _ failed => Returns.parse failed⟩

end Clap

structure Pasp where
  header : BoxHeader
  hSpacing : UInt32
  vSpacing : UInt32
  deriving DecidableEq, Repr

namespace Pasp

def name : FourCC := .ofChars 'p' 'a' 's' 'p'

def new : Pasp := ⟨⟨name⟩, 1, 1⟩

def read (header : BoxHeader) : Reader IoFault Pasp := do
  let hSpacing ← readU32
  let vSpacing ← readU32
  return ⟨header, hSpacing, vSpacing⟩

instance : BoxType Pasp where
  name := name
  demux _ header data := (read header).parse data
  primitiveSize _ := 4 + 4
  primitiveMux pasp := .ok (beU32 pasp.hSpacing ++ beU32 pasp.vSpacing)
  validate _ := .ok ()

instance : ExactSize Pasp where
  exact _ _ _ written := by
    cases written
    simp only [List.length_append, length_beU32]
    rfl

instance (header : BoxHeader) : Returns (read header) := Returns.bind

instance : DemuxReturns Pasp := ⟨fun _ _ _ _ failed => Returns.parse failed⟩

end Pasp

structure Btrt where
  header : BoxHeader
  bufferSizeDb : UInt32
  maxBitrate : UInt32
  avgBitrate : UInt32
  deriving DecidableEq, Repr

namespace Btrt

def name : FourCC := .ofChars 'b' 't' 'r' 't'

def read (header : BoxHeader) : Reader IoFault Btrt := do
  let bufferSizeDb ← readU32
  let maxBitrate ← readU32
  let avgBitrate ← readU32
  return ⟨header, bufferSizeDb, maxBitrate, avgBitrate⟩

instance : BoxType Btrt where
  name := name
  demux _ header data := (read header).parse data
  primitiveSize _ := 4 + 4 + 4
  primitiveMux btrt :=
    .ok (beU32 btrt.bufferSizeDb ++ beU32 btrt.maxBitrate ++ beU32 btrt.avgBitrate)
  validate _ := .ok ()

instance : ExactSize Btrt where
  exact _ _ _ written := by
    cases written
    simp only [List.length_append, length_beU32]
    rfl

instance (header : BoxHeader) : Returns (read header) := Returns.bind

instance : DemuxReturns Btrt := ⟨fun _ _ _ _ failed => Returns.parse failed⟩

end Btrt

inductive ColorType where
  | nclx (colorPrimaries transferCharacteristics matrixCoefficients : UInt16)
      (fullRangeFlag : Bool)
  | unknown (colorType : FourCC) (data : Bytes)
  deriving DecidableEq, Repr

structure Colr where
  header : BoxHeader
  colorType : ColorType
  deriving DecidableEq, Repr

namespace Colr

def name : FourCC := .ofChars 'c' 'o' 'l' 'r'

def nclx : FourCC := .ofChars 'n' 'c' 'l' 'x'

def new (colorType : ColorType) : Colr := ⟨⟨name⟩, colorType⟩

def readNclx : Reader IoFault ColorType := do
  let colorPrimaries ← readU16
  let transferCharacteristics ← readU16
  let matrixCoefficients ← readU16
  let fullRange ← readU8
  return .nclx colorPrimaries transferCharacteristics matrixCoefficients (fullRange >>> 7 == 1)

def read (header : BoxHeader) : Reader IoFault Colr := do
  let colorType ← readFourCC
  if colorType = nclx then do
    return ⟨header, ← readNclx⟩
  else do
    return ⟨header, .unknown colorType (← extractRemaining)⟩

def primitiveSize (colr : Colr) : Nat :=
  (match colr.colorType with
    | .nclx .. => 2 + 2 + 2 + 1
    | .unknown _ data => data.length) + 4

def payload : ColorType → Bytes
  | .nclx colorPrimaries transferCharacteristics matrixCoefficients fullRangeFlag =>
      nclx.bytes ++ (beU16 colorPrimaries ++ (beU16 transferCharacteristics ++
        (beU16 matrixCoefficients ++ [if fullRangeFlag then 0x80 else 0x00])))
  | .unknown colorType data => colorType.bytes ++ data

instance : BoxType Colr where
  name := name
  demux _ header data := (read header).parse data
  primitiveSize := primitiveSize
  primitiveMux colr := .ok (payload colr.colorType)
  validate _ := .ok ()

instance : ExactSize Colr where
  exact colr _ _ written := by
    cases written
    change _ = colr.primitiveSize
    unfold primitiveSize
    cases colr.colorType with
    | nclx colorPrimaries transferCharacteristics matrixCoefficients fullRangeFlag =>
        simp only [payload, List.length_append, length_beU16, FourCC.length_bytes,
          List.length_singleton]
    | unknown colorType data =>
        simp only [payload, List.length_append, FourCC.length_bytes]
        omega

instance : Returns readNclx := Returns.bind

instance (header : BoxHeader) : Returns (read header) := Returns.bind

instance : DemuxReturns Colr := ⟨fun _ _ _ _ failed => Returns.parse failed⟩

end Colr

/-! ## Decoder configurations -/

open H264 (AVCDecoderConfigurationRecord)
open H265 (HEVCDecoderConfigurationRecord)
open Av1 (AV1CodecConfigurationRecord)

structure AvcC where
  header : BoxHeader
  avcDecoderConfigurationRecord : AVCDecoderConfigurationRecord
  deriving DecidableEq, Repr

namespace AvcC

def name : FourCC := .ofChars 'a' 'v' 'c' 'C'

def new (record : AVCDecoderConfigurationRecord) : AvcC := ⟨⟨name⟩, record⟩

def read (header : BoxHeader) : Reader IoFault AvcC := do
  return ⟨header, ← AVCDecoderConfigurationRecord.demux⟩

instance : BoxType AvcC where
  name := name
  demux _ header data := (read header).parse data
  primitiveSize avcC := avcC.avcDecoderConfigurationRecord.size
  primitiveMux avcC := avcC.avcDecoderConfigurationRecord.mux
  validate _ := .ok ()

instance : ExactSize AvcC where
  exact avcC _ _ written := by
    obtain ⟨_, rfl⟩ := AVCDecoderConfigurationRecord.mux_eq_ok_iff.mp written
    exact avcC.avcDecoderConfigurationRecord.length_bytes

instance (header : BoxHeader) : Returns (read header) := Returns.bind

instance : DemuxReturns AvcC := ⟨fun _ _ _ _ failed => Returns.parse failed⟩

end AvcC

structure HvcC where
  header : BoxHeader
  hevcConfig : HEVCDecoderConfigurationRecord
  deriving DecidableEq, Repr

namespace HvcC

def name : FourCC := .ofChars 'h' 'v' 'c' 'C'

def new (hevcConfig : HEVCDecoderConfigurationRecord) : HvcC := ⟨⟨name⟩, hevcConfig⟩

def read (header : BoxHeader) : Reader IoFault HvcC := do
  return ⟨header, ← HEVCDecoderConfigurationRecord.demux⟩

instance : BoxType HvcC where
  name := name
  demux _ header data := (read header).parse data
  primitiveSize hvcC := hvcC.hevcConfig.size
  primitiveMux hvcC := hvcC.hevcConfig.mux
  validate _ := .ok ()

instance : ExactSize HvcC where
  exact hvcC _ _ written := by
    obtain ⟨_, rfl⟩ := HEVCDecoderConfigurationRecord.mux_eq_ok_iff.mp written
    exact hvcC.hevcConfig.length_bytes

instance (header : BoxHeader) : Returns (read header) := Returns.bind

instance : DemuxReturns HvcC := ⟨fun _ _ _ _ failed => Returns.parse failed⟩

end HvcC

structure Av1C where
  header : BoxHeader
  av1Config : AV1CodecConfigurationRecord
  deriving DecidableEq, Repr

namespace Av1C

def name : FourCC := .ofChars 'a' 'v' '1' 'C'

def new (av1Config : AV1CodecConfigurationRecord) : Av1C := ⟨⟨name⟩, av1Config⟩

def read (header : BoxHeader) : Reader IoFault Av1C := do
  return ⟨header, ← AV1CodecConfigurationRecord.demux⟩

instance : BoxType Av1C where
  name := name
  demux _ header data := (read header).parse data
  primitiveSize av1C := av1C.av1Config.size
  primitiveMux av1C := av1C.av1Config.mux
  validate _ := .ok ()

instance : ExactSize Av1C where
  exact av1C _ _ written := by
    obtain ⟨_, rfl⟩ := AV1CodecConfigurationRecord.mux_eq_ok_iff.mp written
    exact av1C.av1Config.length_bytes

instance (header : BoxHeader) : Returns (read header) := Returns.bind

instance : DemuxReturns Av1C := ⟨fun _ _ _ _ failed => Returns.parse failed⟩

end Av1C

/-! ## Fields of an entry -/

class SampleEntryExtension (α : Type) where
  demux : Reader IoFault α
  size : α → Nat
  mux : α → Except IoFault Bytes
  validate : α → Except IoFault Unit

structure SampleEntry (Extension : Type) where
  reserved : Vector UInt8 6
  dataReferenceIndex : UInt16
  extension : Extension
  deriving DecidableEq, Repr

namespace SampleEntry

variable {Extension : Type} [SampleEntryExtension Extension]

def new (extension : Extension) : SampleEntry Extension := ⟨.replicate 6 0, 1, extension⟩

def demux : Reader IoFault (SampleEntry Extension) := do
  let reserved ← readArray readU8 6
  let dataReferenceIndex ← readU16
  let extension ← SampleEntryExtension.demux
  return ⟨reserved, dataReferenceIndex, extension⟩

def size (entry : SampleEntry Extension) : Nat :=
  6 + 2 + SampleEntryExtension.size entry.extension

def validate (entry : SampleEntry Extension) : Except IoFault Unit := do
  refuse (entry.reserved != .replicate 6 0) "sample entry reserved field must be 0"
  SampleEntryExtension.validate entry.extension

/-- The fields in front of the extension. -/
def fields (entry : SampleEntry Extension) : Bytes :=
  entry.reserved.toList ++ beU16 entry.dataReferenceIndex

def mux (entry : SampleEntry Extension) : Except IoFault Bytes := do
  entry.validate
  let extension ← SampleEntryExtension.mux entry.extension
  return entry.fields ++ extension

omit [SampleEntryExtension Extension] in
theorem length_fields (entry : SampleEntry Extension) : entry.fields.length = 6 + 2 := by
  rw [fields, List.length_append, Vector.length_toList, length_beU16]

end SampleEntry

structure AudioSampleEntry where
  reserved : Vector UInt32 2
  channelCount : UInt16
  sampleSize : UInt16
  preDefined : UInt16
  reserved2 : UInt16
  sampleRate : UInt32
  deriving DecidableEq, Repr

namespace AudioSampleEntry

def new (channelCount sampleSize : UInt16) (sampleRate : UInt32) : AudioSampleEntry :=
  ⟨.replicate 2 0, channelCount, sampleSize, 0, 0, sampleRate⟩

/-- The rate is the upper half of its field. -/
def demux : Reader IoFault AudioSampleEntry := do
  let reserved ← readArray readU32 2
  let channelCount ← readU16
  let sampleSize ← readU16
  let preDefined ← readU16
  let reserved2 ← readU16
  let sampleRate ← readU32
  return ⟨reserved, channelCount, sampleSize, preDefined, reserved2, sampleRate >>> 16⟩

def fields (entry : AudioSampleEntry) : Bytes :=
  arrayBytes entry.reserved ++ (beU16 entry.channelCount ++ (beU16 entry.sampleSize ++
    (beU16 entry.preDefined ++ (beU16 entry.reserved2 ++ beU32 (entry.sampleRate <<< 16)))))

def validate (entry : AudioSampleEntry) : Except IoFault Unit := do
  refuse (entry.reserved != .replicate 2 0) "reserved field must be 0"
  refuse (entry.preDefined != 0) "pre_defined field must be 0"
  refuse (entry.reserved2 != 0) "reserved2 field must be 0"

instance : SampleEntryExtension AudioSampleEntry where
  demux := demux
  size _ := 4 + 4 + 2 + 2 + 2 + 2 + 4
  mux entry := .ok entry.fields
  validate := validate

instance : Returns demux := Returns.bind

theorem length_fields (entry : AudioSampleEntry) : entry.fields.length = 20 := by
  simp only [fields, List.length_append, length_arrayBytes, length_beU16, length_beU32]

end AudioSampleEntry

structure VisualSampleEntry where
  preDefined : UInt16
  reserved : UInt16
  preDefined2 : Vector UInt32 3
  width : UInt16
  height : UInt16
  horizresolution : UInt32
  vertresolution : UInt32
  reserved2 : UInt32
  frameCount : UInt16
  compressorname : Vector UInt8 32
  depth : UInt16
  preDefined3 : Int16
  clap : Option Clap
  colr : Option Colr
  pasp : Option Pasp
  deriving DecidableEq, Repr

namespace VisualSampleEntry

def new (width height : UInt16) (colr : Option Colr) : VisualSampleEntry where
  preDefined := 0
  reserved := 0
  preDefined2 := .replicate 3 0
  width := width
  height := height
  horizresolution := 0x00480000
  vertresolution := 0x00480000
  reserved2 := 0
  frameCount := 1
  compressorname := .replicate 32 0
  depth := 0x0018
  preDefined3 := -1
  clap := none
  colr := colr
  pasp := some Pasp.new

def demux : Reader IoFault VisualSampleEntry := do
  let preDefined ← readU16
  let reserved ← readU16
  let preDefined2 ← readArray readU32 3
  let width ← readU16
  let height ← readU16
  let horizresolution ← readU32
  let vertresolution ← readU32
  let reserved2 ← readU32
  let frameCount ← readU16
  let compressorname ← readArray readU8 32
  let depth ← readU16
  let preDefined3 ← readI16
  return ⟨preDefined, reserved, preDefined2, width, height, horizresolution, vertresolution,
    reserved2, frameCount, compressorname, depth, preDefined3, none, none, none⟩

def size (entry : VisualSampleEntry) : Nat :=
  2 + 2 + 4 + 4 + 4 + 2 + 2 + 4 + 4 + 4 + 2 + 32 + 2 + 2 + sizeOption entry.clap +
    sizeOption entry.pasp + sizeOption entry.colr

def fields (entry : VisualSampleEntry) : Bytes :=
  beU16 entry.preDefined ++ (beU16 entry.reserved ++ (arrayBytes entry.preDefined2 ++
    (beU16 entry.width ++ (beU16 entry.height ++ (beU32 entry.horizresolution ++
    (beU32 entry.vertresolution ++ (beU32 entry.reserved2 ++ (beU16 entry.frameCount ++
    (entry.compressorname.toList ++ (beU16 entry.depth ++ beI16 entry.preDefined3))))))))))

/-- An error of a box in the fields is a panic. -/
def unwrap {α : Type} : Except IoFault α → Except IoFault α
  | .ok value => .ok value
  | .error _ => .error .panic

def mux (entry : VisualSampleEntry) : Except IoFault Bytes := do
  let clap ← unwrap (muxOption entry.clap)
  let pasp ← unwrap (muxOption entry.pasp)
  let colr ← unwrap (muxOption entry.colr)
  return entry.fields ++ clap ++ pasp ++ colr

def validate (entry : VisualSampleEntry) : Except IoFault Unit := do
  refuse (entry.preDefined != 0) "pre_defined field must be 0"
  refuse (entry.reserved != 0) "reserved field must be 0"
  refuse (entry.preDefined2 != .replicate 3 0) "pre_defined2 field must be 0"
  refuse (entry.reserved2 != 0) "reserved2 field must be 0"
  refuse (entry.preDefined3 != -1) "pre_defined3 field must be -1"

instance : SampleEntryExtension VisualSampleEntry where
  demux := demux
  size := size
  mux := mux
  validate := validate

instance : Returns demux := Returns.bind

theorem length_fields (entry : VisualSampleEntry) : entry.fields.length = 70 := by
  simp only [fields, List.length_append, length_arrayBytes, length_beU16, length_beU32,
    length_beI16, Vector.length_toList]

/-- The boxes among the fields are always written. -/
theorem mux_eq (entry : VisualSampleEntry) :
    entry.mux = (do
      let clap ← muxOption entry.clap
      let pasp ← muxOption entry.pasp
      let colr ← muxOption entry.colr
      return entry.fields ++ clap ++ pasp ++ colr) := by
  have always {β : Type} [BoxType β] {box : Option β} {bytes : Bytes}
      (written : muxOption box = .ok bytes) : unwrap (muxOption box) = muxOption box := by
    rw [written]
    rfl
  have clap : ∃ bytes, muxOption entry.clap = .ok bytes := by
    cases entry.clap <;> exact ⟨_, rfl⟩
  have pasp : ∃ bytes, muxOption entry.pasp = .ok bytes := by
    cases entry.pasp <;> exact ⟨_, rfl⟩
  have colr : ∃ bytes, muxOption entry.colr = .ok bytes := by
    cases entry.colr <;> exact ⟨_, rfl⟩
  unfold mux
  rw [always clap.choose_spec, always pasp.choose_spec, always colr.choose_spec]

end VisualSampleEntry

instance : Returns (SampleEntry.demux : Reader IoFault (SampleEntry AudioSampleEntry)) := by
  have : Returns (SampleEntryExtension.demux : Reader IoFault AudioSampleEntry) :=
    inferInstanceAs (Returns AudioSampleEntry.demux)
  exact Returns.bind

instance : Returns (SampleEntry.demux : Reader IoFault (SampleEntry VisualSampleEntry)) := by
  have : Returns (SampleEntryExtension.demux : Reader IoFault VisualSampleEntry) :=
    inferInstanceAs (Returns VisualSampleEntry.demux)
  exact Returns.bind

end ScuffleVideo.Mp4
