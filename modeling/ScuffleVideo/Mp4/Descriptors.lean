import ScuffleVideo.Mp4.BoxType
import ScuffleVideo.Wire.Text

/-!
# Elementary stream descriptors

A descriptor is a tag, the size of its payload in groups of seven bits, and the
payload.  Descriptors nest through each other: those of the types that a payload
knows stand in fields of their own, all others in the order in which they came.
The reader takes the first group of a size for the most significant one; the
writer writes the least significant one first.
-/

namespace ScuffleVideo.Mp4

open Wire Wire.Reader

inductive DescriptorTag where
  | esDescrTag
  | decoderConfigDescrTag
  | decSpecificInfoTag
  | slConfigDescrTag
  | unknown (tag : UInt8)
  deriving DecidableEq, Repr

namespace DescriptorTag

def ofCode (tag : UInt8) : DescriptorTag :=
  if tag = 0x03 then .esDescrTag
  else if tag = 0x04 then .decoderConfigDescrTag
  else if tag = 0x05 then .decSpecificInfoTag
  else if tag = 0x06 then .slConfigDescrTag
  else .unknown tag

def code : DescriptorTag → UInt8
  | .esDescrTag => 0x03
  | .decoderConfigDescrTag => 0x04
  | .decSpecificInfoTag => 0x05
  | .slConfigDescrTag => 0x06
  | .unknown tag => tag

end DescriptorTag

/-! ## Headers -/

structure DescriptorHeader where
  tag : DescriptorTag
  deriving DecidableEq, Repr

namespace DescriptorHeader

/-- The groups of a size, the first one on top.  Each round reads a byte, so a
buffer in which the groups end has enough rounds. -/
def readGroups : Nat → UInt32 → Reader IoFault UInt32
  | 0, _ => fail .unexpectedEof
  | rounds + 1, size => do
      let byte ← readU8
      let size := (size <<< 7) ||| (byte &&& 0b01111111).toUInt32
      if byte &&& 0b10000000 = 0 then return size else readGroups rounds size

def readSize : Reader IoFault UInt32 := fun buffer position =>
  readGroups (buffer.length + 1) 0 buffer position

def parse : Reader IoFault (DescriptorHeader × Bytes) := do
  let tag ← readU8
  let size ← readSize
  let data ← extractBytes size.toNat
  return (⟨.ofCode tag⟩, data)

end DescriptorHeader

/-- The number of groups of a size.  Five groups hold 32 bits. -/
def bytesRequired : Nat → UInt32 → Nat
  | 0, _ => 0
  | rounds + 1, size => if size >>> 7 = 0 then 1 else bytesRequired rounds (size >>> 7) + 1

/-- The groups of a size, the lowest one first. -/
def sizeGroups : Nat → UInt32 → Bytes
  | 0, _ => []
  | rounds + 1, size =>
      let byte := (size &&& 0b01111111).toUInt8
      if size >>> 7 = 0 then [byte] else (byte ||| 0b10000000) :: sizeGroups rounds (size >>> 7)

/-- The size of a descriptor from the size of its payload. -/
def descriptorSize (primitiveSize : Nat) : Nat :=
  primitiveSize + 1 + bytesRequired 5 (UInt32.ofNat primitiveSize)

/-- The tag and the size of a descriptor. -/
def descriptorHead (tag : DescriptorTag) (primitiveSize : Nat) : Bytes :=
  [tag.code] ++ sizeGroups 5 (UInt32.ofNat primitiveSize)

theorem length_sizeGroups (rounds : Nat) (size : UInt32) :
    (sizeGroups rounds size).length = bytesRequired rounds size := by
  induction rounds generalizing size with
  | zero => rfl
  | succ rounds ih =>
      unfold sizeGroups bytesRequired
      dsimp only
      split
      · rfl
      · rw [List.length_cons, ih]

theorem length_descriptorHead (tag : DescriptorTag) (primitiveSize : Nat) :
    primitiveSize + (descriptorHead tag primitiveSize).length = descriptorSize primitiveSize := by
  rw [descriptorHead, List.length_append, length_sizeGroups, List.length_singleton, descriptorSize]
  omega

instance (rounds : Nat) (size : UInt32) : Returns (DescriptorHeader.readGroups rounds size) := by
  induction rounds generalizing size with
  | zero =>
      refine ⟨fun _ _ _ failed => ?_⟩
      cases failed
      rfl
  | succ rounds ih => exact Returns.bind

instance : Returns DescriptorHeader.readSize :=
  ⟨fun buffer position fault failed =>
    @Returns.returned _ (DescriptorHeader.readGroups (buffer.length + 1) 0) inferInstance buffer
      position fault failed⟩

instance : Returns DescriptorHeader.parse := Returns.bind

/-! ## Payloads -/

structure DecoderSpecificInfoDescriptor where
  header : DescriptorHeader
  data : Bytes
  deriving DecidableEq, Repr

namespace DecoderSpecificInfoDescriptor

def tag : DescriptorTag := .decSpecificInfoTag

def demux (header : DescriptorHeader) (data : Bytes) :
    Except IoFault DecoderSpecificInfoDescriptor := .ok ⟨header, data⟩

def primitiveSize (descriptor : DecoderSpecificInfoDescriptor) : Nat := descriptor.data.length

def primitiveMux (descriptor : DecoderSpecificInfoDescriptor) : Bytes := descriptor.data

def size (descriptor : DecoderSpecificInfoDescriptor) : Nat :=
  descriptorSize descriptor.primitiveSize

def mux (descriptor : DecoderSpecificInfoDescriptor) : Bytes :=
  descriptorHead tag descriptor.primitiveSize ++ descriptor.primitiveMux

theorem length_mux (descriptor : DecoderSpecificInfoDescriptor) :
    descriptor.mux.length = descriptor.size := by
  rw [mux, List.length_append, size, ← length_descriptorHead tag, Nat.add_comm]
  rfl

end DecoderSpecificInfoDescriptor

structure SLConfigDescriptor where
  header : DescriptorHeader
  predefined : UInt8
  data : Bytes
  deriving DecidableEq, Repr

namespace SLConfigDescriptor

def tag : DescriptorTag := .slConfigDescrTag

def demux (header : DescriptorHeader) : Bytes → Except IoFault SLConfigDescriptor
  | [] => .error (.invalidData "SLConfigDescriptor must have at least 1 byte")
  | predefined :: data => .ok ⟨header, predefined, data⟩

def primitiveSize (descriptor : SLConfigDescriptor) : Nat := 1 + descriptor.data.length

def primitiveMux (descriptor : SLConfigDescriptor) : Bytes :=
  [descriptor.predefined] ++ descriptor.data

def size (descriptor : SLConfigDescriptor) : Nat := descriptorSize descriptor.primitiveSize

def mux (descriptor : SLConfigDescriptor) : Bytes :=
  descriptorHead tag descriptor.primitiveSize ++ descriptor.primitiveMux

theorem length_mux (descriptor : SLConfigDescriptor) : descriptor.mux.length = descriptor.size := by
  rw [mux, List.length_append, size, ← length_descriptorHead tag, Nat.add_comm, primitiveMux,
    primitiveSize, List.length_append, List.length_singleton]

end SLConfigDescriptor

structure DecoderConfigDescriptor (Unknown : Type) where
  header : DescriptorHeader
  objectTypeIndication : UInt8
  streamType : UInt8
  upStream : Bool
  reserved : UInt8
  bufferSizeDb : UInt32
  maxBitrate : UInt32
  avgBitrate : UInt32
  decoderSpecificInfo : Option DecoderSpecificInfoDescriptor
  unknown : List Unknown

structure EsDescriptor (Unknown : Type) where
  header : DescriptorHeader
  esId : UInt16
  streamPriority : UInt8
  dependsOnEsId : Option UInt16
  url : Option String
  ocrEsId : Option UInt16
  decoderConfig : Option (DecoderConfigDescriptor Unknown)
  slConfig : Option SLConfigDescriptor
  unknown : List Unknown

inductive DynDescriptor where
  | es (descriptor : EsDescriptor DynDescriptor)
  | decoderConfig (descriptor : DecoderConfigDescriptor DynDescriptor)
  | decoderSpecificInfo (descriptor : DecoderSpecificInfoDescriptor)
  | slConfig (descriptor : SLConfigDescriptor)
  | unknown (header : DescriptorHeader) (data : Bytes)

namespace DecoderConfigDescriptor

variable {Unknown : Type}

def tag : DescriptorTag := .decoderConfigDescrTag

def new (objectTypeIndication streamType : UInt8) (maxBitrate avgBitrate : UInt32)
    (decoderSpecificInfo : Option DecoderSpecificInfoDescriptor) :
    DecoderConfigDescriptor Unknown :=
  ⟨⟨tag⟩, objectTypeIndication, streamType, false, 1, 0, maxBitrate, avgBitrate,
    decoderSpecificInfo, []⟩

/-- The stream type above its direction and the reserved bit. -/
def streamByte (streamType : UInt8) (upStream : Bool) (reserved : UInt8) : UInt8 :=
  (streamType <<< 2) ||| (upStream.toUInt8 <<< 1) ||| reserved

end DecoderConfigDescriptor

namespace EsDescriptor

variable {Unknown : Type}

def tag : DescriptorTag := .esDescrTag

def new (esId : UInt16) (streamPriority : UInt8) (dependsOnEsId : Option UInt16)
    (url : Option String) (ocrEsId : Option UInt16)
    (decoderConfig : Option (DecoderConfigDescriptor Unknown))
    (slConfig : Option SLConfigDescriptor) : EsDescriptor Unknown :=
  ⟨⟨tag⟩, esId, streamPriority, dependsOnEsId, url, ocrEsId, decoderConfig, slConfig, []⟩

def flag (streamPriority : UInt8) (dependsOnEsId url ocrEsId : Bool) : UInt8 :=
  (streamPriority &&& 0b00011111) ||| (if dependsOnEsId then 0b10000000 else 0) |||
    (if url then 0b01000000 else 0) ||| (if ocrEsId then 0b00100000 else 0)

/-- The length counts the bytes of the text, and each character is cut to one
byte. -/
def urlBytes (url : String) : Bytes :=
  [UInt8.ofNat (asBytes url).length] ++ url.toList.map fun char => UInt8.ofNat char.toNat

def urlSize : Option String → Nat
  | none => 0
  | some url => 1 + (asBytes url).length

def readUrl : Reader IoFault String := do
  let size ← readU8
  let chars ← repeated readU8 size.toNat
  return ofByteChars chars

/-- How many bytes of a text its characters do not stand for. -/
def urlGap : Option String → Nat
  | none => 0
  | some url => (asBytes url).length - url.toList.length

instance : Returns readUrl := Returns.bind

theorem length_urlBytes (url : Option String) :
    (optional urlBytes url).length + urlGap url = urlSize url := by
  cases url with
  | none => rfl
  | some url =>
      have enough := (length_asBytes url).1
      rw [optional_some, urlBytes, List.length_append, List.length_map, List.length_singleton,
        urlGap, urlSize]
      omega

end EsDescriptor

/-! ## Sizes -/

namespace DynDescriptor

def sizeInfo : Option DecoderSpecificInfoDescriptor → Nat
  | none => 0
  | some descriptor => descriptor.size

def sizeSl : Option SLConfigDescriptor → Nat
  | none => 0
  | some descriptor => descriptor.size

mutual

def size : DynDescriptor → Nat
  | .es descriptor => descriptorSize (primitiveSizeEs descriptor)
  | .decoderConfig descriptor => descriptorSize (primitiveSizeConfig descriptor)
  | .decoderSpecificInfo descriptor => descriptor.size
  | .slConfig descriptor => descriptor.size
  | .unknown _ data => 1 + bytesRequired 5 (UInt32.ofNat data.length) + data.length

def primitiveSizeEs : EsDescriptor DynDescriptor → Nat
  | ⟨_, _, _, dependsOnEsId, url, ocrEsId, config, sl, others⟩ =>
      2 + 1 + (if dependsOnEsId.isSome then 2 else 0) + EsDescriptor.urlSize url +
        (if ocrEsId.isSome then 2 else 0) + sizeConfig config + sizeSl sl + sizes others

def primitiveSizeConfig : DecoderConfigDescriptor DynDescriptor → Nat
  | ⟨_, _, _, _, _, _, _, _, info, others⟩ =>
      1 + 1 + 3 + 4 + 4 + sizeInfo info + sizes others

def sizeConfig : Option (DecoderConfigDescriptor DynDescriptor) → Nat
  | none => 0
  | some descriptor => descriptorSize (primitiveSizeConfig descriptor)

def sizes : List DynDescriptor → Nat
  | [] => 0
  | descriptor :: descriptors => size descriptor + sizes descriptors

end

/-! ## Writing -/

mutual

def mux : DynDescriptor → Except IoFault Bytes
  | .es descriptor => do
      let payload ← primitiveMuxEs descriptor
      return descriptorHead EsDescriptor.tag (primitiveSizeEs descriptor) ++ payload
  | .decoderConfig descriptor => do
      let payload ← primitiveMuxConfig descriptor
      return descriptorHead DecoderConfigDescriptor.tag (primitiveSizeConfig descriptor) ++ payload
  | .decoderSpecificInfo descriptor => .ok descriptor.mux
  | .slConfig descriptor => .ok descriptor.mux
  | .unknown header data => .ok (descriptorHead header.tag data.length ++ data)

def primitiveMuxEs : EsDescriptor DynDescriptor → Except IoFault Bytes
  | ⟨_, esId, streamPriority, dependsOnEsId, url, ocrEsId, config, sl, others⟩ => do
      let inner ← muxConfig config
      let rest ← muxAll others
      return beU16 esId ++
        [EsDescriptor.flag streamPriority dependsOnEsId.isSome url.isSome ocrEsId.isSome] ++
        optional beU16 dependsOnEsId ++ optional EsDescriptor.urlBytes url ++
        optional beU16 ocrEsId ++ inner ++ optional SLConfigDescriptor.mux sl ++ rest

def primitiveMuxConfig : DecoderConfigDescriptor DynDescriptor → Except IoFault Bytes
  | ⟨_, objectTypeIndication, streamType, upStream, reserved, bufferSizeDb, maxBitrate, avgBitrate,
      info, others⟩ => do
      let bufferSize ← writeU24 bufferSizeDb
      let rest ← muxAll others
      return [objectTypeIndication,
        DecoderConfigDescriptor.streamByte streamType upStream reserved] ++ bufferSize ++
        beU32 maxBitrate ++ beU32 avgBitrate ++
        optional DecoderSpecificInfoDescriptor.mux info ++ rest

def muxConfig : Option (DecoderConfigDescriptor DynDescriptor) → Except IoFault Bytes
  | none => .ok []
  | some descriptor => do
      let payload ← primitiveMuxConfig descriptor
      return descriptorHead DecoderConfigDescriptor.tag (primitiveSizeConfig descriptor) ++ payload

def muxAll : List DynDescriptor → Except IoFault Bytes
  | [] => .ok []
  | descriptor :: descriptors => do
      let first ← mux descriptor
      let rest ← muxAll descriptors
      return first ++ rest

end

/-! ## Reading -/

def asDecoderConfig : DynDescriptor → Option (DecoderConfigDescriptor DynDescriptor)
  | .decoderConfig descriptor => some descriptor
  | _ => none

def asSLConfig : DynDescriptor → Option SLConfigDescriptor
  | .slConfig descriptor => some descriptor
  | _ => none

def asDecoderSpecificInfo : DynDescriptor → Option DecoderSpecificInfoDescriptor
  | .decoderSpecificInfo descriptor => some descriptor
  | _ => none

def asEs : DynDescriptor → Option (EsDescriptor DynDescriptor)
  | .es descriptor => some descriptor
  | _ => none

def readEs (nested : Reader IoFault DynDescriptor) (header : DescriptorHeader) :
    Reader IoFault (EsDescriptor DynDescriptor) := do
  let esId ← readU16
  let flag ← readU8
  let dependsOnEsId ← optionally (flag &&& 0b10000000 != 0) readU16
  let url ← optionally (flag &&& 0b01000000 != 0) EsDescriptor.readUrl
  let ocrEsId ← optionally (flag &&& 0b00100000 != 0) readU16
  let descriptors ← untilEnd IoFault.unfinished nested
  return ⟨header, esId, flag &&& 0b00011111, dependsOnEsId, url, ocrEsId,
    lastOf asDecoderConfig descriptors, lastOf asSLConfig descriptors,
    descriptors.filter fun descriptor =>
      (asDecoderConfig descriptor).isNone && (asSLConfig descriptor).isNone⟩

def readConfig (nested : Reader IoFault DynDescriptor) (header : DescriptorHeader) :
    Reader IoFault (DecoderConfigDescriptor DynDescriptor) := do
  let objectTypeIndication ← readU8
  let byte ← readU8
  let bufferSizeDb ← readU24
  let maxBitrate ← readU32
  let avgBitrate ← readU32
  let descriptors ← untilEnd IoFault.unfinished nested
  return ⟨header, objectTypeIndication, byte >>> 2, byte &&& 0b00000010 != 0, byte &&& 0b00000001,
    bufferSizeDb, maxBitrate, avgBitrate, lastOf asDecoderSpecificInfo descriptors,
    descriptors.filter fun descriptor => (asDecoderSpecificInfo descriptor).isNone⟩

def ofData (nested : Reader IoFault DynDescriptor) (header : DescriptorHeader) (data : Bytes) :
    Except IoFault DynDescriptor :=
  match header.tag with
  | .esDescrTag => do return .es (← (readEs nested header).parse data)
  | .decoderConfigDescrTag => do return .decoderConfig (← (readConfig nested header).parse data)
  | .decSpecificInfoTag => do
      return .decoderSpecificInfo (← DecoderSpecificInfoDescriptor.demux header data)
  | .slConfigDescrTag => do return .slConfig (← SLConfigDescriptor.demux header data)
  | .unknown _ => .ok (.unknown header data)

/-- Read one descriptor, following nested ones to the given depth. -/
def demuxWithin : Nat → Reader IoFault DynDescriptor
  | 0 => fail IoFault.unfinished
  | depth + 1 => do
      let (header, data) ← DescriptorHeader.parse
      ofExcept (ofData (demuxWithin depth) header data)

/-- Every nested payload is shorter than the buffer it is cut from. -/
def demux : Reader IoFault DynDescriptor := fun buffer position =>
  demuxWithin (buffer.length + 1) buffer position

/-! ## How much is written -/

mutual

/-- The texts of all descriptors of a tree. -/
def urls : DynDescriptor → List String
  | .es descriptor => urlsEs descriptor
  | .decoderConfig descriptor => urlsConfig descriptor
  | .decoderSpecificInfo _ => []
  | .slConfig _ => []
  | .unknown _ _ => []

def urlsEs : EsDescriptor DynDescriptor → List String
  | ⟨_, _, _, _, url, _, config, _, others⟩ => url.toList ++ (urlsOption config ++ urlsAll others)

def urlsConfig : DecoderConfigDescriptor DynDescriptor → List String
  | ⟨_, _, _, _, _, _, _, _, _, others⟩ => urlsAll others

def urlsOption : Option (DecoderConfigDescriptor DynDescriptor) → List String
  | none => []
  | some descriptor => urlsConfig descriptor

def urlsAll : List DynDescriptor → List String
  | [] => []
  | descriptor :: descriptors => urls descriptor ++ urlsAll descriptors

end

/-- How many more bytes than characters texts have. -/
def gap (texts : List String) : Nat :=
  (texts.map fun text => (asBytes text).length - text.toList.length).sum

theorem gap_append (texts others : List String) :
    gap (texts ++ others) = gap texts + gap others := by
  simp [gap]

theorem gap_eq_zero_iff (texts : List String) :
    gap texts = 0 ↔ ∀ text ∈ texts, ∀ char ∈ text.toList, char.toNat < 128 := by
  unfold gap
  rw [List.sum_eq_zero_iff_forall_eq_nat, List.forall_mem_map]
  refine forall₂_congr fun text _ => ?_
  obtain ⟨enough, exact_iff⟩ := length_asBytes text
  rw [← exact_iff]
  omega

mutual

/-- A tree of descriptors is shorter than its measured size by the bytes that
its texts have beyond their characters. -/
theorem length_mux (descriptor : DynDescriptor) {bytes : Bytes} (written : mux descriptor = .ok bytes) :
    bytes.length + gap (urls descriptor) = size descriptor := by
  cases descriptor with
  | es descriptor =>
      obtain ⟨payload, inner, same⟩ := sequence_eq_ok_iff.mp written
      cases same
      have counted := length_primitiveMuxEs descriptor inner
      rw [List.length_append, urls, size, ← length_descriptorHead EsDescriptor.tag]
      omega
  | decoderConfig descriptor =>
      obtain ⟨payload, inner, same⟩ := sequence_eq_ok_iff.mp written
      cases same
      have counted := length_primitiveMuxConfig descriptor inner
      rw [List.length_append, urls, size, ← length_descriptorHead DecoderConfigDescriptor.tag]
      omega
  | decoderSpecificInfo descriptor =>
      cases written
      exact descriptor.length_mux
  | slConfig descriptor =>
      cases written
      exact descriptor.length_mux
  | unknown header data =>
      cases written
      have head := length_descriptorHead header.tag data.length
      rw [List.length_append, urls, size, Nat.add_comm (List.length _), head, descriptorSize]
      change data.length + 1 + _ + 0 = _
      omega

theorem length_primitiveMuxEs (descriptor : EsDescriptor DynDescriptor) {bytes : Bytes}
    (written : primitiveMuxEs descriptor = .ok bytes) :
    bytes.length + gap (urlsEs descriptor) = primitiveSizeEs descriptor := by
  obtain ⟨header, esId, streamPriority, dependsOnEsId, url, ocrEsId, config, sl, others⟩ := descriptor
  obtain ⟨inner, innerWritten, more⟩ := sequence_eq_ok_iff.mp written
  obtain ⟨rest, restWritten, same⟩ := sequence_eq_ok_iff.mp more
  cases same
  have first := length_muxConfig config innerWritten
  have last := length_muxAll others restWritten
  have text := EsDescriptor.length_urlBytes url
  have slLength : (optional SLConfigDescriptor.mux sl).length = sizeSl sl := by
    cases sl with
    | none => rfl
    | some sl => exact sl.length_mux
  have urlGap : gap url.toList = EsDescriptor.urlGap url := by
    cases url <;> simp [gap, EsDescriptor.urlGap]
  simp only [List.length_append, length_optional length_beU16, length_beU16, List.length_singleton,
    slLength, urlsEs, gap_append, urlGap, primitiveSizeEs]
  omega

theorem length_primitiveMuxConfig (descriptor : DecoderConfigDescriptor DynDescriptor)
    {bytes : Bytes} (written : primitiveMuxConfig descriptor = .ok bytes) :
    bytes.length + gap (urlsConfig descriptor) = primitiveSizeConfig descriptor := by
  obtain ⟨header, objectTypeIndication, streamType, upStream, reserved, bufferSizeDb, maxBitrate,
    avgBitrate, info, others⟩ := descriptor
  obtain ⟨bufferSize, bufferWritten, more⟩ := sequence_eq_ok_iff.mp written
  obtain ⟨rest, restWritten, same⟩ := sequence_eq_ok_iff.mp more
  cases same
  have last := length_muxAll others restWritten
  have infoLength : (optional DecoderSpecificInfoDescriptor.mux info).length = sizeInfo info := by
    cases info with
    | none => rfl
    | some info => exact info.length_mux
  have bufferLength : bufferSize.length = 3 := by
    unfold writeU24 at bufferWritten
    split at bufferWritten
    · cases bufferWritten
      exact length_toBytesBE 3 _
    · cases bufferWritten
  simp only [List.length_append, List.length_cons, List.length_nil, length_beU32, infoLength,
    bufferLength, urlsConfig, primitiveSizeConfig]
  omega

theorem length_muxConfig (descriptor : Option (DecoderConfigDescriptor DynDescriptor))
    {bytes : Bytes} (written : muxConfig descriptor = .ok bytes) :
    bytes.length + gap (urlsOption descriptor) = sizeConfig descriptor := by
  cases descriptor with
  | none =>
      cases written
      rfl
  | some descriptor =>
      obtain ⟨payload, inner, same⟩ := sequence_eq_ok_iff.mp written
      cases same
      have counted := length_primitiveMuxConfig descriptor inner
      rw [List.length_append, urlsOption, sizeConfig,
        ← length_descriptorHead DecoderConfigDescriptor.tag]
      omega

theorem length_muxAll (descriptors : List DynDescriptor) {bytes : Bytes}
    (written : muxAll descriptors = .ok bytes) :
    bytes.length + gap (urlsAll descriptors) = sizes descriptors := by
  cases descriptors with
  | nil =>
      cases written
      rfl
  | cons descriptor descriptors =>
      obtain ⟨first, firstWritten, more⟩ := sequence_eq_ok_iff.mp written
      obtain ⟨rest, restWritten, same⟩ := sequence_eq_ok_iff.mp more
      cases same
      have head := length_mux descriptor firstWritten
      have tail := length_muxAll descriptors restWritten
      rw [List.length_append, urlsAll, gap_append, sizes]
      omega

end

/-! ## Returning -/

theorem consumes_readGroups (rounds : Nat) (size : UInt32) :
    Consumes 0 (DescriptorHeader.readGroups rounds size) := by
  induction rounds generalizing size with
  | zero => exact Consumes.fail _
  | succ rounds ih =>
      have rest (byte : UInt8) : Consumes 0 (if byte &&& 0b10000000 = 0
          then pure ((size <<< 7) ||| (byte &&& 0b01111111).toUInt32)
          else DescriptorHeader.readGroups rounds
            ((size <<< 7) ||| (byte &&& 0b01111111).toUInt32)) := by
        split
        · exact Consumes.pure _
        · exact ih _
      exact (Consumes.readU8.bind rest).weaken (Nat.zero_le _)

theorem consumes_parse : Consumes 1 DescriptorHeader.parse := by
  have size : Consumes 0 DescriptorHeader.readSize :=
    fun buffer _ _ _ read => consumes_readGroups (buffer.length + 1) 0 _ _ _ _ read
  exact Consumes.readU8.bind fun _ => size.bind fun _ =>
    (Consumes.extractBytes _).bind fun _ => Consumes.pure _

/-- A payload is shorter than the buffer it is cut from. -/
theorem parse_shorter {buffer data : Bytes} {position stop : Nat} {header : DescriptorHeader}
    (read : DescriptorHeader.parse buffer position = .ok ((header, data), stop)) :
    data.length < buffer.length := by
  obtain ⟨tag, first, tagRead, more⟩ := bind_eq_ok_iff.mp read
  obtain ⟨size, second, sizeRead, rest⟩ := bind_eq_ok_iff.mp more
  obtain ⟨payload, third, cut, done⟩ := bind_eq_ok_iff.mp rest
  cases done
  obtain ⟨present, moved⟩ := readUint_inside tagRead
  have onwards := consumes_readGroups _ _ _ _ _ _ sizeRead
  have behind := length_extractBytes cut
  dsimp only at moved
  omega

theorem consumes_demuxWithin (depth : Nat) : Consumes 1 (demuxWithin depth) := by
  cases depth with
  | zero => exact fun _ _ _ _ read => nomatch read
  | succ depth => exact consumes_parse.bind fun _ => Consumes.ofExcept _

theorem below_readEs {depth : Nat} {nested : Reader IoFault DynDescriptor}
    (inner : Returns.Below depth (untilEnd IoFault.unfinished nested)) (header : DescriptorHeader) :
    Returns.Below depth (readEs nested header) :=
  (Returns.below depth).bind fun _ => (Returns.below depth).bind fun _ =>
    (Returns.below depth).bind fun _ => (Returns.below depth).bind fun _ =>
    (Returns.below depth).bind fun _ => inner.bind fun _ => Returns.below depth

theorem below_readConfig {depth : Nat} {nested : Reader IoFault DynDescriptor}
    (inner : Returns.Below depth (untilEnd IoFault.unfinished nested)) (header : DescriptorHeader) :
    Returns.Below depth (readConfig nested header) :=
  (Returns.below depth).bind fun _ => (Returns.below depth).bind fun _ =>
    (Returns.below depth).bind fun _ => (Returns.below depth).bind fun _ =>
    (Returns.below depth).bind fun _ => inner.bind fun _ => Returns.below depth

theorem ofData_returned {depth : Nat} {nested : Reader IoFault DynDescriptor}
    (inner : Returns.Below depth (untilEnd IoFault.unfinished nested)) {header : DescriptorHeader}
    {data : Bytes} (short : data.length < depth) {fault : IoFault}
    (failed : ofData nested header data = .error fault) : fault.isReturned = true := by
  unfold ofData at failed
  split at failed
  · exact (below_readEs inner header).parse short (error_of_map failed)
  · exact (below_readConfig inner header).parse short (error_of_map failed)
  · cases failed
  · cases data with
    | nil =>
        cases failed
        rfl
    | cons predefined data => cases failed
  · cases failed

/-- Descriptors to a depth are enough for a buffer that is shorter. -/
theorem below_demuxWithin (depth : Nat) : Returns.Below depth (demuxWithin depth) := by
  induction depth with
  | zero => exact fun _ _ _ short => nomatch short
  | succ depth ih =>
      intro buffer position fault short failed
      have nested := ih.untilEnd (consumes_demuxWithin depth)
      rw [demuxWithin, bind_apply] at failed
      cases cut : DescriptorHeader.parse buffer position with
      | error earlier =>
          rw [cut] at failed
          cases failed
          exact Returns.returned _ _ _ cut
      | ok pair =>
          obtain ⟨⟨header, data⟩, stop⟩ := pair
          rw [cut] at failed
          have shorter := parse_shorter cut
          exact ofData_returned nested (show data.length < depth by omega)
            (error_of_ofExcept failed)

theorem consumes_demux : Consumes 1 demux :=
  fun buffer _ _ _ read => consumes_demuxWithin (buffer.length + 1) _ _ _ _ read

instance : Returns demux :=
  ⟨fun buffer position fault failed =>
    below_demuxWithin (buffer.length + 1) buffer position fault (Nat.lt_succ_self _) failed⟩

end DynDescriptor

/-! ## The box -/

structure Esds where
  header : FullBoxHeader
  esDescriptor : EsDescriptor DynDescriptor
  unknown : List DynDescriptor

namespace Esds

def name : FourCC := .ofChars 'e' 's' 'd' 's'

def new (esDescriptor : EsDescriptor DynDescriptor) : Esds := ⟨.new name 0 0, esDescriptor, []⟩

def read (header : BoxHeader) : Reader IoFault Esds := do
  let header ← FullBoxHeader.demux header
  let descriptors ← untilEnd IoFault.unfinished DynDescriptor.demux
  match lastOf DynDescriptor.asEs descriptors with
  | none => fail (.invalidData "esds box must contain es descriptor")
  | some esDescriptor =>
      return ⟨header, esDescriptor, descriptors.filter fun descriptor =>
        (DynDescriptor.asEs descriptor).isNone⟩

/-- Descriptors beside the stream's own are neither counted nor written. -/
def primitiveSize (esds : Esds) : Nat :=
  esds.header.size + DynDescriptor.size (.es esds.esDescriptor)

def primitiveMux (esds : Esds) : Except IoFault Bytes := do
  let header ← esds.header.mux
  let descriptor ← DynDescriptor.mux (.es esds.esDescriptor)
  return header ++ descriptor

instance : BoxType Esds where
  name := name
  demux _ header data := (read header).parse data
  primitiveSize := primitiveSize
  primitiveMux := primitiveMux
  validate _ := .ok ()

instance (header : BoxHeader) : Returns (read header) := by
  have descriptors : Returns (untilEnd IoFault.unfinished DynDescriptor.demux) := by
    refine ⟨fun buffer position fault failed => ?_⟩
    have element : Returns.Below (buffer.length + 1) DynDescriptor.demux := Returns.below _
    exact element.untilEnd DynDescriptor.consumes_demux _ _ _ (Nat.lt_succ_self _) failed
  have collect (header : FullBoxHeader) (descriptors : List DynDescriptor) :
      Returns (match lastOf DynDescriptor.asEs descriptors with
        | none => fail (.invalidData "esds box must contain es descriptor")
        | some esDescriptor =>
            pure ⟨header, esDescriptor, descriptors.filter fun descriptor =>
              (DynDescriptor.asEs descriptor).isNone⟩ : Reader IoFault Esds) := by
    split
    · exact Returns.invalidData _
    · exact Returns.pure _
  exact Returns.bind

instance : DemuxReturns Esds := ⟨fun _ _ _ _ failed => Returns.parse failed⟩

/-- A box whose texts are not all ASCII is shorter than its measured size. -/
theorem length_primitiveMux {esds : Esds} {payload : Bytes}
    (written : esds.primitiveMux = .ok payload) :
    payload.length + DynDescriptor.gap (DynDescriptor.urlsEs esds.esDescriptor) =
      esds.primitiveSize := by
  obtain ⟨header, headerWritten, more⟩ := sequence_eq_ok_iff.mp written
  obtain ⟨descriptor, descriptorWritten, same⟩ := sequence_eq_ok_iff.mp more
  cases same
  have counted := DynDescriptor.length_mux (.es esds.esDescriptor) descriptorWritten
  rw [DynDescriptor.urls] at counted
  rw [List.length_append, FullBoxHeader.length_mux headerWritten, primitiveSize]
  omega

end Esds

end ScuffleVideo.Mp4
