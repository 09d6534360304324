import Mathlib.Algebra.Order.BigOperators.Group.List
import Mathlib.Data.List.Palindrome
import Mathlib.Data.Nat.Digits.Lemmas
import ScuffleVideo.Wire.Extent
import ScuffleVideo.Mp4.Descriptors

/-!
# Trees of descriptors

A descriptor is its head, its own fields and its children, whatever its kind.  The writer puts the
lowest group of a size first and the reader takes the first group for the highest, so a size comes
back with its groups reversed.  A tree in which every size is the same both ways round is read
back.
-/

namespace ScuffleVideo.Mp4

open Wire Wire.Reader

/-! ## Sizes in groups of seven bits -/

/-- What the reader makes of the groups of a size. -/
def mirrored (size : Nat) : Nat := Nat.ofDigits 128 (Nat.digits 128 size).reverse

theorem mirrored_lt {size : Nat} (small : size < 2 ^ 28) : mirrored size < 2 ^ 28 := by
  have few : (Nat.digits 128 size).length ≤ 4 := (Nat.digits_length_le_iff (by decide) size).mpr small
  refine Nat.lt_of_lt_of_le (Nat.ofDigits_lt_base_pow_length (by decide) fun digit member => ?_) ?_
  · exact Nat.digits_lt_base (by decide) (List.mem_reverse.mp member)
  · rw [List.length_reverse]
    exact Nat.pow_le_pow_right (by decide) few

theorem mirrored_eq_iff (size : Nat) : mirrored size = size ↔ (Nat.digits 128 size).Palindrome := by
  have inside {digit : Nat} (member : digit ∈ Nat.digits 128 size) : digit < 128 :=
    Nat.digits_lt_base (by decide) member
  rw [List.Palindrome.iff_reverse_eq]
  constructor
  · intro same
    refine Nat.ofDigits_inj_of_len_eq (b := 128) (by decide) List.length_reverse
      (fun digit member => inside (List.mem_reverse.mp member)) (fun digit => inside) ?_
    rw [Nat.ofDigits_digits]
    exact same
  · intro same
    rw [mirrored, same, Nat.ofDigits_digits]

/-- One round of the writer. -/
theorem sizeGroups_succ {size : Nat} (rounds : Nat) (small : size < 2 ^ 32) :
    sizeGroups (rounds + 1) (UInt32.ofNat size) =
      if size / 128 = 0 then [UInt8.ofNat (size % 128)]
      else UInt8.ofNat (size % 128 + 128) :: sizeGroups rounds (UInt32.ofNat (size / 128)) := by
  have whole : (UInt32.ofNat size).toNat = size := UInt32.toNat_ofNat_of_lt' small
  have low : (UInt32.ofNat size &&& 0b01111111).toUInt8 = UInt8.ofNat (size % 128) := by
    rw [← UInt8.toNat_inj, UInt32.toNat_toUInt8, UInt32.toNat_and, whole, UInt8.toNat_ofNat']
    have mask : size &&& (0b01111111 : UInt32).toNat = size % 128 :=
      Nat.and_two_pow_sub_one_eq_mod size 7
    rw [mask]
  have high : UInt32.ofNat size >>> 7 = UInt32.ofNat (size / 128) := by
    rw [← UInt32.toNat_inj, UInt32.toNat_shiftRight, whole,
      UInt32.toNat_ofNat_of_lt' (show size / 128 < 2 ^ 32 by omega)]
    exact Nat.shiftRight_eq_div_pow size 7
  have last : UInt32.ofNat (size / 128) = 0 ↔ size / 128 = 0 := by
    rw [← UInt32.toNat_inj, UInt32.toNat_ofNat_of_lt' (show size / 128 < 2 ^ 32 by omega)]
    rfl
  have marked : UInt8.ofNat (size % 128) ||| 0b10000000 = UInt8.ofNat (size % 128 + 128) := by
    have table : ∀ number : Fin 128,
        UInt8.ofNat number.val ||| 0b10000000 = UInt8.ofNat (number.val + 128) := by decide
    exact table ⟨size % 128, Nat.mod_lt _ (by decide)⟩
  rw [sizeGroups]
  rw [low, high, marked]
  exact if_congr last rfl rfl

/-- One round of the reader. -/
theorem readGroups_step (value digit : Nat) (small : digit < 128) :
    (UInt32.ofNat value <<< 7) ||| UInt32.ofNat digit = UInt32.ofNat (value * 128 + digit) := by
  rw [← UInt32.toNat_inj, UInt32.toNat_or, UInt32.toNat_shiftLeft, UInt32.toNat_ofNat',
    UInt32.toNat_ofNat', UInt32.toNat_ofNat']
  have shifted : (value % 2 ^ 32) <<< ((7 : UInt32).toNat % 32) % 2 ^ 32 =
      (value % 2 ^ 25) * 2 ^ 7 := by
    change (value % 2 ^ 32) <<< 7 % 2 ^ 32 = _
    rw [Nat.shiftLeft_eq]
    omega
  rw [shifted, Nat.mod_eq_of_lt (show digit < 2 ^ 32 by omega), Nat.mul_comm,
    ← Nat.two_pow_add_eq_or_of_lt small]
  omega

namespace DescriptorHeader

theorem readGroups_reads {rounds : Nat} {size : Nat} (positive : 0 < size) (small : size < 2 ^ 32)
    (few : size < 128 ^ rounds) (value : Nat) {more : Nat}
    (enough : (sizeGroups rounds (UInt32.ofNat size)).length ≤ more) :
    Reads (readGroups more (UInt32.ofNat value)) (sizeGroups rounds (UInt32.ofNat size))
      (UInt32.ofNat ((Nat.digits 128 size).foldl (fun value digit => value * 128 + digit) value)) := by
  induction rounds generalizing size value more with
  | zero => omega
  | succ rounds ih =>
      rw [sizeGroups_succ rounds small] at enough ⊢
      have some : 1 ≤ more := by
        refine Nat.le_trans ?_ enough
        split <;> exact Nat.succ_le_succ (Nat.zero_le _)
      obtain ⟨more, rfl⟩ : ∃ fewer, more = fewer + 1 := ⟨more - 1, by omega⟩
      have inside : size % 128 < 128 := Nat.mod_lt _ (by decide)
      have plain : ∀ number : Fin 128,
          UInt8.ofNat number.val &&& 0b10000000 = 0 ∧
          (UInt8.ofNat number.val &&& 0b01111111).toUInt32 = UInt32.ofNat number.val := by
        decide
      have marked : ∀ number : Fin 128,
          UInt8.ofNat (number.val + 128) &&& 0b10000000 ≠ 0 ∧
          (UInt8.ofNat (number.val + 128) &&& 0b01111111).toUInt32 = UInt32.ofNat number.val := by
        decide
      rw [Nat.digits_def' (by decide) positive, List.foldl_cons]
      split at enough
      · rename_i last
        obtain ⟨ends, low⟩ := plain ⟨size % 128, inside⟩
        rw [if_pos last]
        refine (Reads.readU8 _).finish ?_
        rw [low, readGroups_step value _ inside, if_pos ends, last, Nat.digits_zero]
        exact Reads.pure _
      · rename_i further
        obtain ⟨continues, low⟩ := marked ⟨size % 128, inside⟩
        rw [if_neg further]
        refine (Reads.readU8 _).bind ?_
        rw [low, readGroups_step value _ inside, if_neg continues]
        exact ih (by omega) (by omega) (by rw [Nat.pow_succ] at few; omega) _
          (Nat.le_of_succ_le_succ enough)

theorem readSize_reads {size : Nat} (small : size < 2 ^ 28) :
    Reads readSize (sizeGroups 5 (UInt32.ofNat size)) (UInt32.ofNat (mirrored size)) := by
  intro before after
  rcases Nat.eq_zero_or_pos size with rfl | positive
  · have empty : Reads (readGroups ((before ++ [0] ++ after).length + 1) 0) [0] 0 :=
      (Reads.readU8 0).finish (Reads.pure 0)
    exact empty before after
  · have enough : (sizeGroups 5 (UInt32.ofNat size)).length ≤
        (before ++ sizeGroups 5 (UInt32.ofNat size) ++ after).length + 1 := by
      rw [List.length_append, List.length_append]
      omega
    have folded : (Nat.digits 128 size).foldl (fun value digit => value * 128 + digit) 0 =
        mirrored size := by
      rw [mirrored, Nat.ofDigits_eq_foldr, List.foldr_reverse]
      congr 1
      funext value digit
      change _ = digit + 128 * value
      omega
    have read := readGroups_reads positive (by omega) (show size < 128 ^ 5 by omega) 0 enough
    rw [folded] at read
    exact read before after

end DescriptorHeader

namespace DynDescriptor

/-! ## A descriptor and its children -/

/-- The descriptors in the payload of a descriptor, in the order in which they are written. -/
def children : DynDescriptor → List DynDescriptor
  | .es descriptor =>
      descriptor.decoderConfig.toList.map .decoderConfig ++
        (descriptor.slConfig.toList.map .slConfig ++ descriptor.unknown)
  | .decoderConfig descriptor =>
      descriptor.decoderSpecificInfo.toList.map .decoderSpecificInfo ++ descriptor.unknown
  | .decoderSpecificInfo _ => []
  | .slConfig _ => []
  | .unknown _ _ => []

/-- What stands in the payload in front of the children. -/
def fields : DynDescriptor → Bytes
  | .es descriptor =>
      beU16 descriptor.esId ++
        ([EsDescriptor.flag descriptor.streamPriority descriptor.dependsOnEsId.isSome
          descriptor.url.isSome descriptor.ocrEsId.isSome] ++
        (optional beU16 descriptor.dependsOnEsId ++ (optional EsDescriptor.urlBytes descriptor.url ++
        optional beU16 descriptor.ocrEsId)))
  | .decoderConfig descriptor =>
      [descriptor.objectTypeIndication] ++
        ([DecoderConfigDescriptor.streamByte descriptor.streamType descriptor.upStream
          descriptor.reserved] ++
        (toBytesBE 3 descriptor.bufferSizeDb.toNat ++
        (beU32 descriptor.maxBitrate ++ beU32 descriptor.avgBitrate)))
  | .decoderSpecificInfo descriptor => descriptor.primitiveMux
  | .slConfig descriptor => descriptor.primitiveMux
  | .unknown _ data => data

def tag : DynDescriptor → DescriptorTag
  | .es _ => EsDescriptor.tag
  | .decoderConfig _ => DecoderConfigDescriptor.tag
  | .decoderSpecificInfo _ => DecoderSpecificInfoDescriptor.tag
  | .slConfig _ => SLConfigDescriptor.tag
  | .unknown header _ => header.tag

def primitiveSize : DynDescriptor → Nat
  | .es descriptor => primitiveSizeEs descriptor
  | .decoderConfig descriptor => primitiveSizeConfig descriptor
  | .decoderSpecificInfo descriptor => descriptor.primitiveSize
  | .slConfig descriptor => descriptor.primitiveSize
  | .unknown _ data => data.length

/-- The text of the descriptor itself. -/
def text : DynDescriptor → Option String
  | .es descriptor => descriptor.url
  | _ => none

/-- The descriptors of a tree. -/
inductive Inside (tree : DynDescriptor) : DynDescriptor → Prop
  | self : Inside tree tree
  | child {parent child : DynDescriptor} (inside : Inside tree parent)
      (member : child ∈ parent.children) : Inside tree child

theorem Inside.trans {tree parent descriptor : DynDescriptor} (first : Inside tree parent)
    (second : Inside parent descriptor) : Inside tree descriptor := by
  induction second with
  | self => exact first
  | child _ member ih => exact ih.child member

theorem size_eq (descriptor : DynDescriptor) :
    descriptor.size = descriptorSize descriptor.primitiveSize := by
  cases descriptor with
  | unknown header data =>
      rw [size, primitiveSize, descriptorSize]
      omega
  | _ =>
      unfold size
      rfl

theorem sizes_append (first second : List DynDescriptor) :
    sizes (first ++ second) = sizes first + sizes second := by
  induction first with
  | nil =>
      rw [List.nil_append, sizes]
      omega
  | cons descriptor first ih =>
      rw [List.cons_append, sizes, sizes, ih]
      omega

theorem sizes_eq_sum (descriptors : List DynDescriptor) :
    sizes descriptors = (descriptors.map size).sum := by
  induction descriptors with
  | nil =>
      rw [sizes]
      rfl
  | cons descriptor descriptors ih => rw [sizes, List.map_cons, List.sum_cons, ih]

theorem primitiveSize_eq (descriptor : DynDescriptor) :
    descriptor.primitiveSize =
      descriptor.fields.length + EsDescriptor.urlGap descriptor.text +
        sizes descriptor.children := by
  cases descriptor with
  | es descriptor =>
      obtain ⟨header, esId, streamPriority, dependsOnEsId, url, ocrEsId, config, sl, others⟩ := descriptor
      have counted := EsDescriptor.length_urlBytes url
      have configSize : sizes (config.toList.map .decoderConfig) = sizeConfig config := by
        cases config <;> simp [sizes, sizeConfig, size]
      have slSize : sizes (sl.toList.map .slConfig) = sizeSl sl := by
        cases sl <;> simp [sizes, sizeSl, size]
      simp only [primitiveSize, primitiveSizeEs, fields, children, text, sizes_append, configSize,
        slSize, List.length_append, length_optional length_beU16, length_beU16, List.length_singleton]
      omega
  | decoderConfig descriptor =>
      obtain ⟨header, objectTypeIndication, streamType, upStream, reserved, bufferSizeDb, maxBitrate,
        avgBitrate, info, others⟩ := descriptor
      have infoSize : sizes (info.toList.map .decoderSpecificInfo) = sizeInfo info := by
        cases info <;> simp [sizes, sizeInfo, size]
      simp only [primitiveSize, primitiveSizeConfig, fields, children, text, sizes_append, infoSize,
        List.length_append, length_toBytesBE, length_beU32, List.length_singleton,
        EsDescriptor.urlGap]
      omega
  | decoderSpecificInfo descriptor => simp [primitiveSize, fields, children, text, sizes,
      EsDescriptor.urlGap, DecoderSpecificInfoDescriptor.primitiveSize,
      DecoderSpecificInfoDescriptor.primitiveMux]
  | slConfig descriptor => simp [primitiveSize, fields, children, text, sizes,
      EsDescriptor.urlGap, SLConfigDescriptor.primitiveSize, SLConfigDescriptor.primitiveMux,
      Nat.add_comm]
  | unknown header data => simp [primitiveSize, fields, children, text, sizes, EsDescriptor.urlGap]

theorem size_child_lt {descriptor child : DynDescriptor} (member : child ∈ descriptor.children) :
    child.size < descriptor.size := by
  have one : child.size ≤ sizes descriptor.children := by
    rw [sizes_eq_sum]
    exact List.le_sum_of_mem (List.mem_map_of_mem member)
  have whole := primitiveSize_eq descriptor
  rw [size_eq descriptor, descriptorSize]
  omega

/-- What holds of a descriptor whenever it holds of its children holds of all descriptors. -/
theorem childInduction {holds : DynDescriptor → Prop}
    (step : ∀ descriptor : DynDescriptor, (∀ child ∈ descriptor.children, holds child) →
      holds descriptor) (descriptor : DynDescriptor) : holds descriptor := by
  induction bound : descriptor.size using Nat.strong_induction_on generalizing descriptor with
  | _ bound ih =>
      subst bound
      exact step descriptor fun child member => ih _ (size_child_lt member) child rfl

/-! ## Well-formed trees -/

/-- The fields of a descriptor are within their widths and each field holds descriptors of its
own tag. -/
def FieldsFit : DynDescriptor → Prop
  | .es descriptor =>
      descriptor.header.tag = EsDescriptor.tag ∧ descriptor.streamPriority.toNat < 2 ^ 5 ∧
        (∀ url ∈ descriptor.url,
          (∀ char ∈ url.toList, char.toNat < 128) ∧ (asBytes url).length ≤ 255) ∧
        ∀ other ∈ descriptor.unknown, asDecoderConfig other = none ∧ asSLConfig other = none
  | .decoderConfig descriptor =>
      descriptor.header.tag = DecoderConfigDescriptor.tag ∧ descriptor.streamType.toNat < 2 ^ 6 ∧
        descriptor.reserved.toNat < 2 ∧ descriptor.bufferSizeDb.toNat < 2 ^ 24 ∧
        ∀ other ∈ descriptor.unknown, asDecoderSpecificInfo other = none
  | .decoderSpecificInfo descriptor => descriptor.header.tag = DecoderSpecificInfoDescriptor.tag
  | .slConfig descriptor => descriptor.header.tag = SLConfigDescriptor.tag
  | .unknown header _ => ∃ tag, header.tag = .unknown tag ∧ DescriptorTag.ofCode tag = .unknown tag

/-- Every descriptor of the tree is within the widths of its fields and of its size. -/
def WellFormed (tree : DynDescriptor) : Prop :=
  ∀ descriptor, Inside tree descriptor →
    descriptor.FieldsFit ∧ descriptor.primitiveSize < 2 ^ 28

theorem WellFormed.child {descriptor child : DynDescriptor} (fits : descriptor.WellFormed)
    (member : child ∈ descriptor.children) : child.WellFormed :=
  fun inner inside => fits inner ((Inside.self.child member).trans inside)

theorem urlGap_eq_zero {descriptor : DynDescriptor} (fits : descriptor.FieldsFit) :
    EsDescriptor.urlGap descriptor.text = 0 := by
  cases descriptor with
  | es descriptor =>
      obtain ⟨_, _, texts, _⟩ := fits
      change EsDescriptor.urlGap descriptor.url = 0
      cases found : descriptor.url with
      | none => rfl
      | some url =>
          have ascii := (length_asBytes url).2.mpr (texts url found).1
          rw [EsDescriptor.urlGap, ascii, Nat.sub_self]
  | _ => rfl

theorem code_tag {descriptor : DynDescriptor} (fits : descriptor.FieldsFit) :
    DescriptorTag.ofCode descriptor.tag.code = descriptor.tag := by
  cases descriptor with
  | unknown header data =>
      obtain ⟨tag, known, same⟩ := fits
      rw [DynDescriptor.tag, known]
      exact same
  | _ => rfl

/-! ## Writing -/

theorem muxAll_append (first second : List DynDescriptor) :
    muxAll (first ++ second) = (do
      let bytes ← muxAll first
      let rest ← muxAll second
      return bytes ++ rest) := by
  induction first with
  | nil =>
      rw [List.nil_append, muxAll]
      cases muxAll second <;> rfl
  | cons descriptor first ih =>
      rw [List.cons_append, muxAll, muxAll, ih]
      cases mux descriptor with
      | error fault => rfl
      | ok head =>
          cases muxAll first with
          | error fault => rfl
          | ok bytes =>
              cases muxAll second with
              | error fault => rfl
              | ok rest => exact congrArg Except.ok (List.append_assoc head bytes rest).symm

theorem muxAll_config (config : Option (DecoderConfigDescriptor DynDescriptor)) :
    muxAll (config.toList.map .decoderConfig) = muxConfig config := by
  cases config with
  | none =>
      rw [muxConfig]
      exact muxAll.eq_1
  | some config =>
      rw [Option.toList_some, List.map_singleton, muxAll, muxAll, muxConfig, mux]
      cases primitiveMuxConfig config with
      | error fault => rfl
      | ok payload => exact congrArg Except.ok (List.append_nil _)

/-- An optional child whose writing does not fail. -/
theorem muxAll_optional {α : Type} {wrap : α → DynDescriptor} {encode : α → Bytes}
    (writes : ∀ value, mux (wrap value) = .ok (encode value)) (value : Option α) :
    muxAll (value.toList.map wrap) = .ok (optional encode value) := by
  cases value with
  | none => exact muxAll.eq_1
  | some value =>
      rw [Option.toList_some, List.map_singleton, muxAll, muxAll, writes]
      exact congrArg Except.ok (List.append_nil _)

/-- A descriptor is its head, its own fields and its children. -/
theorem mux_eq {descriptor : DynDescriptor} (fits : descriptor.FieldsFit) :
    descriptor.mux = (do
      let rest ← muxAll descriptor.children
      return descriptorHead descriptor.tag descriptor.primitiveSize ++
        (descriptor.fields ++ rest)) := by
  cases descriptor with
  | es descriptor =>
      obtain ⟨header, esId, streamPriority, dependsOnEsId, url, ocrEsId, config, sl, others⟩ := descriptor
      rw [mux, primitiveMuxEs, children, muxAll_append, muxAll_append, muxAll_config,
        @muxAll_optional _ slConfig SLConfigDescriptor.mux fun sl => by rw [mux]]
      cases muxConfig config with
      | error fault => rfl
      | ok inner =>
          cases muxAll others with
          | error fault => rfl
          | ok rest =>
              refine congrArg Except.ok ?_
              simp only [fields, List.append_assoc]
              rfl
  | decoderConfig descriptor =>
      obtain ⟨header, objectTypeIndication, streamType, upStream, reserved, bufferSizeDb, maxBitrate,
        avgBitrate, info, others⟩ := descriptor
      obtain ⟨_, _, _, small, _⟩ := fits
      have written : (writeU24 bufferSizeDb : Except IoFault Bytes) =
        .ok (toBytesBE 3 bufferSizeDb.toNat) := if_pos small
      rw [mux, primitiveMuxConfig, children, muxAll_append, written,
        @muxAll_optional _ decoderSpecificInfo DecoderSpecificInfoDescriptor.mux
          fun info => by rw [mux]]
      cases muxAll others with
      | error fault => rfl
      | ok rest =>
          refine congrArg Except.ok ?_
          simp only [fields, List.append_assoc]
          rfl
  | decoderSpecificInfo descriptor =>
      rw [mux, children, muxAll]
      exact congrArg Except.ok (congrArg _ (List.append_nil _).symm)
  | slConfig descriptor =>
      rw [mux, children, muxAll]
      exact congrArg Except.ok (congrArg _ (List.append_nil _).symm)
  | unknown header data =>
      rw [mux, children, muxAll]
      exact congrArg Except.ok (congrArg _ (List.append_nil _).symm)

/-- A well-formed tree is written, in as many bytes as it measures. -/
theorem WellFormed.mux {descriptor : DynDescriptor} (fits : descriptor.WellFormed) :
    ∃ rest, muxAll descriptor.children = .ok rest ∧
      (descriptor.fields ++ rest).length = descriptor.primitiveSize ∧
      descriptor.mux =
        .ok (descriptorHead descriptor.tag descriptor.primitiveSize ++ (descriptor.fields ++ rest)) := by
  induction descriptor using childInduction with
  | step descriptor ih =>
      have own := (fits descriptor .self).1
      have all (descriptors : List DynDescriptor)
          (inner : ∀ child ∈ descriptors, child ∈ descriptor.children) :
          ∃ rest, muxAll descriptors = .ok rest ∧ rest.length = sizes descriptors := by
        induction descriptors with
        | nil =>
            rw [muxAll, sizes]
            exact ⟨[], rfl, rfl⟩
        | cons child descriptors more =>
            have member := inner child List.mem_cons_self
            obtain ⟨payload, _, length, written⟩ := ih child member (fits.child member)
            obtain ⟨rest, others, counted⟩ :=
              more fun child member => inner child (List.mem_cons_of_mem _ member)
            have head := length_descriptorHead child.tag child.primitiveSize
            refine ⟨descriptorHead child.tag child.primitiveSize ++ (child.fields ++ payload) ++ rest,
              ?_, ?_⟩
            · rw [muxAll, written, others]
              rfl
            · rw [List.length_append, List.length_append, length, counted, sizes, size_eq]
              omega
      obtain ⟨rest, written, length⟩ := all descriptor.children fun _ member => member
      refine ⟨rest, written, ?_, ?_⟩
      · rw [List.length_append, length, primitiveSize_eq, urlGap_eq_zero own]
        omega
      · rw [mux_eq own, written]
        rfl

/-! ## Reading -/

def assembleEs (descriptor : EsDescriptor DynDescriptor) (found : List DynDescriptor) :
    EsDescriptor DynDescriptor :=
  { descriptor with
    decoderConfig := lastOf asDecoderConfig found
    slConfig := lastOf asSLConfig found
    unknown := found.filter fun descriptor =>
      (asDecoderConfig descriptor).isNone && (asSLConfig descriptor).isNone }

def assembleConfig (descriptor : DecoderConfigDescriptor DynDescriptor)
    (found : List DynDescriptor) : DecoderConfigDescriptor DynDescriptor :=
  { descriptor with
    decoderSpecificInfo := lastOf asDecoderSpecificInfo found
    unknown := found.filter fun descriptor => (asDecoderSpecificInfo descriptor).isNone }

/-- The descriptor with the children that were found in its payload. -/
def assemble : DynDescriptor → List DynDescriptor → DynDescriptor
  | .es descriptor, found => .es (assembleEs descriptor found)
  | .decoderConfig descriptor, found => .decoderConfig (assembleConfig descriptor found)
  | descriptor, _ => descriptor

theorem readUrl_reads {url : String} (ascii : ∀ char ∈ url.toList, char.toNat < 128)
    (short : (asBytes url).length ≤ 255) :
    Reads EsDescriptor.readUrl (EsDescriptor.urlBytes url) url := by
  have counted := (length_asBytes url).2.mpr ascii
  have length : (UInt8.ofNat (asBytes url).length).toNat =
      (url.toList.map fun char => UInt8.ofNat char.toNat).length := by
    rw [UInt8.toNat_ofNat_of_lt' (show _ < 2 ^ 8 by omega), counted, List.length_map]
  refine (Reads.readU8 _).bind ?_
  rw [length]
  have chars := @Reads.repeated IoFault UInt8 readU8 (fun byte => [byte])
    (url.toList.map fun char => UInt8.ofNat char.toNat) fun byte _ => Reads.readU8 byte
  rw [List.flatMap_singleton'] at chars
  refine chars.finish ?_
  rw [ofByteChars_map ascii]
  exact Reads.pure url

theorem flag_bits {priority : UInt8} (small : priority.toNat < 2 ^ 5) (first second third : Bool) :
    (EsDescriptor.flag priority first second third &&& 0b10000000 != 0) = first ∧
    (EsDescriptor.flag priority first second third &&& 0b01000000 != 0) = second ∧
    (EsDescriptor.flag priority first second third &&& 0b00100000 != 0) = third ∧
    EsDescriptor.flag priority first second third &&& 0b00011111 = priority := by
  have table : ∀ (number : Fin 32) (first second third : Bool),
      (EsDescriptor.flag (UInt8.ofNat number.val) first second third &&& 0b10000000 != 0) = first ∧
      (EsDescriptor.flag (UInt8.ofNat number.val) first second third &&& 0b01000000 != 0) = second ∧
      (EsDescriptor.flag (UInt8.ofNat number.val) first second third &&& 0b00100000 != 0) = third ∧
      EsDescriptor.flag (UInt8.ofNat number.val) first second third &&& 0b00011111 =
        UInt8.ofNat number.val := by
    decide +kernel
  have row := table ⟨priority.toNat, small⟩ first second third
  rwa [UInt8.ofNat_toNat] at row

theorem streamByte_bits {streamType reserved : UInt8} (small : streamType.toNat < 2 ^ 6)
    (bit : reserved.toNat < 2) (upStream : Bool) :
    DecoderConfigDescriptor.streamByte streamType upStream reserved >>> 2 = streamType ∧
    (DecoderConfigDescriptor.streamByte streamType upStream reserved &&& 0b00000010 != 0) = upStream ∧
    DecoderConfigDescriptor.streamByte streamType upStream reserved &&& 0b00000001 = reserved := by
  have table : ∀ (number : Fin 64) (last : Fin 2) (upStream : Bool),
      DecoderConfigDescriptor.streamByte (UInt8.ofNat number.val) upStream (UInt8.ofNat last.val) >>> 2 =
        UInt8.ofNat number.val ∧
      (DecoderConfigDescriptor.streamByte (UInt8.ofNat number.val) upStream (UInt8.ofNat last.val) &&&
        0b00000010 != 0) = upStream ∧
      DecoderConfigDescriptor.streamByte (UInt8.ofNat number.val) upStream (UInt8.ofNat last.val) &&&
        0b00000001 = UInt8.ofNat last.val := by
    decide +kernel
  have row := table ⟨streamType.toNat, small⟩ ⟨reserved.toNat, bit⟩ upStream
  rwa [UInt8.ofNat_toNat, UInt8.ofNat_toNat] at row

theorem readEs_leads (nested : Reader IoFault DynDescriptor) {descriptor : EsDescriptor DynDescriptor}
    (fits : FieldsFit (.es descriptor)) :
    Leads (readEs nested descriptor.header)
      (do return assembleEs descriptor (← untilEnd IoFault.unfinished nested))
      (fields (.es descriptor)) := by
  obtain ⟨_, priority, texts, _⟩ := fits
  obtain ⟨first, second, third, low⟩ := flag_bits priority descriptor.dependsOnEsId.isSome
    descriptor.url.isSome descriptor.ocrEsId.isSome
  refine (Reads.readU16 descriptor.esId).leads ?_
  refine (Reads.readU8 _).leads ?_
  rw [first, second, third, low]
  refine (Reads.optionally rfl fun inner _ => Reads.readU16 inner).leads ?_
  refine (Reads.optionally rfl fun inner member =>
    readUrl_reads (texts inner member).1 (texts inner member).2).leads ?_
  exact (Reads.optionally rfl fun inner _ => Reads.readU16 inner).leadsLast

theorem readConfig_leads (nested : Reader IoFault DynDescriptor)
    {descriptor : DecoderConfigDescriptor DynDescriptor}
    (fits : FieldsFit (.decoderConfig descriptor)) :
    Leads (readConfig nested descriptor.header)
      (do return assembleConfig descriptor (← untilEnd IoFault.unfinished nested))
      (fields (.decoderConfig descriptor)) := by
  obtain ⟨_, small, bit, room, _⟩ := fits
  obtain ⟨high, middle, low⟩ := streamByte_bits small bit descriptor.upStream
  refine (Reads.readU8 descriptor.objectTypeIndication).leads ?_
  refine (Reads.readU8 _).leads ?_
  rw [high, middle, low]
  refine (Reads.readU24 room).leads ?_
  refine (Reads.readU32 descriptor.maxBitrate).leads ?_
  exact (Reads.readU32 descriptor.avgBitrate).leadsLast

/-- What the reader makes of a payload is the descriptor with the children found behind its
fields. -/
theorem ofData_eq_ok_iff (nested : Reader IoFault DynDescriptor) {descriptor : DynDescriptor}
    (fits : descriptor.FieldsFit) {rest : Bytes} (written : muxAll descriptor.children = .ok rest)
    {result : DynDescriptor} :
    ofData nested ⟨descriptor.tag⟩ (descriptor.fields ++ rest) = .ok result ↔
      ∃ found stop, untilEnd IoFault.unfinished nested (descriptor.fields ++ rest)
        descriptor.fields.length = .ok (found, stop) ∧ descriptor.assemble found = result := by
  -- A descriptor without children is read from its payload alone.
  have leaf {data : Bytes} {made result : DynDescriptor} :
      (Except.ok made : Except IoFault DynDescriptor) = .ok result ↔
        ∃ found stop, untilEnd IoFault.unfinished nested (data ++ []) data.length =
          .ok (found, stop) ∧ made = result := by
    constructor
    · intro same
      exact ⟨[], _, ReadsAll.nil.untilEnd IoFault.unfinished data, Except.ok.inj same⟩
    · rintro ⟨_, _, _, rfl⟩
      rfl
  cases descriptor with
  | es descriptor =>
      have header : (⟨tag (.es descriptor)⟩ : DescriptorHeader) = descriptor.header :=
        congrArg DescriptorHeader.mk fits.1.symm
      rw [header, ofData, fits.1]
      refine sequence_eq_ok_iff.trans ?_
      constructor
      · rintro ⟨inner, read, same⟩
        obtain ⟨found, stop, scanned, made⟩ := (readEs_leads nested fits).parse_eq_ok_iff.mp read
        exact ⟨found, stop, scanned, by rw [assemble, made]; exact Except.ok.inj same⟩
      · rintro ⟨found, stop, scanned, made⟩
        exact ⟨_, (readEs_leads nested fits).parse_eq_ok_iff.mpr ⟨found, stop, scanned, rfl⟩,
          congrArg Except.ok made⟩
  | decoderConfig descriptor =>
      have header : (⟨tag (.decoderConfig descriptor)⟩ : DescriptorHeader) = descriptor.header :=
        congrArg DescriptorHeader.mk fits.1.symm
      rw [header, ofData, fits.1]
      refine sequence_eq_ok_iff.trans ?_
      constructor
      · rintro ⟨inner, read, same⟩
        obtain ⟨found, stop, scanned, made⟩ := (readConfig_leads nested fits).parse_eq_ok_iff.mp read
        exact ⟨found, stop, scanned, by rw [assemble, made]; exact Except.ok.inj same⟩
      · rintro ⟨found, stop, scanned, made⟩
        exact ⟨_, (readConfig_leads nested fits).parse_eq_ok_iff.mpr ⟨found, stop, scanned, rfl⟩,
          congrArg Except.ok made⟩
  | decoderSpecificInfo descriptor =>
      rw [children, muxAll] at written
      cases written
      obtain ⟨⟨_⟩, data⟩ := descriptor
      cases fits
      have whole : ofData nested ⟨DecoderSpecificInfoDescriptor.tag⟩ (data ++ []) =
          .ok (.decoderSpecificInfo ⟨⟨DecoderSpecificInfoDescriptor.tag⟩, data⟩) := by
        rw [List.append_nil]
        rfl
      exact (Eq.congr_left whole).trans leaf
  | slConfig descriptor =>
      rw [children, muxAll] at written
      cases written
      obtain ⟨⟨_⟩, predefined, data⟩ := descriptor
      cases fits
      have whole : ofData nested ⟨SLConfigDescriptor.tag⟩ (predefined :: data ++ []) =
          .ok (.slConfig ⟨⟨SLConfigDescriptor.tag⟩, predefined, data⟩) := by
        rw [List.append_nil]
        rfl
      exact (Eq.congr_left whole).trans leaf
  | unknown header data =>
      rw [children, muxAll] at written
      cases written
      obtain ⟨⟨_⟩, known, _⟩ := fits
      obtain ⟨_⟩ := header
      cases known
      have whole (code : UInt8) : ofData nested ⟨.unknown code⟩ (data ++ []) =
          .ok (.unknown ⟨.unknown code⟩ data) := by
        rw [List.append_nil]
        rfl
      exact (Eq.congr_left (whole _)).trans leaf

theorem pick_decoderConfig (descriptor : DecoderConfigDescriptor DynDescriptor) :
    asDecoderConfig (.decoderConfig descriptor) = some descriptor ∧
      asSLConfig (.decoderConfig descriptor) = none := ⟨rfl, rfl⟩

theorem pick_slConfig (descriptor : SLConfigDescriptor) :
    asDecoderConfig (.slConfig descriptor) = none ∧
      asSLConfig (.slConfig descriptor) = some descriptor := ⟨rfl, rfl⟩

theorem assemble_children {descriptor : DynDescriptor} (fits : descriptor.FieldsFit) :
    descriptor.assemble descriptor.children = descriptor := by
  cases descriptor with
  | es descriptor =>
      obtain ⟨header, esId, streamPriority, dependsOnEsId, url, ocrEsId, config, sl, others⟩ := descriptor
      obtain ⟨_, _, _, apart⟩ := fits
      have configs : others.filterMap asDecoderConfig = [] :=
        List.filterMap_eq_nil_iff.mpr fun other member => (apart other member).1
      have sls : others.filterMap asSLConfig = [] :=
        List.filterMap_eq_nil_iff.mpr fun other member => (apart other member).2
      have kept : (others.filter fun other =>
          (asDecoderConfig other).isNone && (asSLConfig other).isNone) = others := by
        refine List.filter_eq_self.mpr fun other member => ?_
        rw [(apart other member).1, (apart other member).2]
        rfl
      cases config <;> cases sl <;>
        simp [assemble, assembleEs, children, lastOf, configs, sls, kept, -List.filter_eq_self,
          pick_decoderConfig, pick_slConfig]
  | decoderConfig descriptor =>
      obtain ⟨header, objectTypeIndication, streamType, upStream, reserved, bufferSizeDb, maxBitrate,
        avgBitrate, info, others⟩ := descriptor
      obtain ⟨_, _, _, _, apart⟩ := fits
      have infos : others.filterMap asDecoderSpecificInfo = [] :=
        List.filterMap_eq_nil_iff.mpr apart
      have kept : (others.filter fun other => (asDecoderSpecificInfo other).isNone) = others := by
        refine List.filter_eq_self.mpr fun other member => ?_
        rw [apart other member]
        rfl
      cases info with
      | none => simp [assemble, assembleConfig, children, lastOf, infos, kept, -List.filter_eq_self]
      | some info =>
          have shown : asDecoderSpecificInfo (.decoderSpecificInfo info) = some info := rfl
          simp [assemble, assembleConfig, children, lastOf, infos, kept, -List.filter_eq_self, shown]
  | decoderSpecificInfo descriptor => rfl
  | slConfig descriptor => rfl
  | unknown header data => rfl

/-- The head of a descriptor whose size is the same both ways round. -/
theorem parse_reads {tag : DescriptorTag} {payload : Bytes} (small : payload.length < 2 ^ 28)
    (same : (Nat.digits 128 payload.length).Palindrome) :
    Reads DescriptorHeader.parse (descriptorHead tag payload.length ++ payload)
      (⟨.ofCode tag.code⟩, payload) := by
  rw [descriptorHead, List.append_assoc]
  refine (Reads.readU8 tag.code).bind ?_
  refine (DescriptorHeader.readSize_reads small).bind ?_
  rw [(mirrored_eq_iff _).mpr same]
  refine (Reads.extractBytes (UInt32.toNat_ofNat_of_lt' (show _ < 2 ^ 32 by omega)).symm).finish ?_
  exact Reads.pure _

/-- The sizes in the tree are the same both ways round. -/
def Palindromic (tree : DynDescriptor) : Prop :=
  ∀ descriptor, Inside tree descriptor → (Nat.digits 128 descriptor.primitiveSize).Palindrome

theorem Palindromic.child {descriptor child : DynDescriptor} (same : descriptor.Palindromic)
    (member : child ∈ descriptor.children) : child.Palindromic :=
  fun inner inside => same inner ((Inside.self.child member).trans inside)

theorem readsAll_of_reads {nested : Reader IoFault DynDescriptor} {descriptors : List DynDescriptor}
    (each : ∀ descriptor ∈ descriptors, ∃ bytes, descriptor.mux = .ok bytes ∧
      bytes ≠ [] ∧ Reads nested bytes descriptor) {rest : Bytes}
    (written : muxAll descriptors = .ok rest) : ReadsAll nested descriptors rest := by
  induction descriptors generalizing rest with
  | nil =>
      rw [muxAll] at written
      cases written
      exact .nil
  | cons descriptor descriptors ih =>
      obtain ⟨bytes, first, nonempty, read⟩ := each descriptor List.mem_cons_self
      rw [muxAll] at written
      obtain ⟨head, again, more⟩ := sequence_eq_ok_iff.mp written
      obtain ⟨others, othersWritten, same⟩ := sequence_eq_ok_iff.mp more
      cases same
      cases first.symm.trans again
      exact .cons read nonempty
        (ih (fun other member => each other (List.mem_cons_of_mem _ member)) othersWritten)

theorem reads_of_palindromic {tree : DynDescriptor} (fits : tree.WellFormed)
    (same : tree.Palindromic) {bytes : Bytes} (written : tree.mux = .ok bytes) {depth : Nat}
    (deep : bytes.length ≤ depth) : Reads (demuxWithin depth) bytes tree := by
  induction tree using childInduction generalizing bytes depth with
  | step descriptor ih =>
      obtain ⟨own, small⟩ := fits descriptor .self
      obtain ⟨rest, inner, length, whole⟩ := fits.mux
      cases whole.symm.trans written
      have head := length_descriptorHead descriptor.tag descriptor.primitiveSize
      have positive : 1 ≤ (descriptorHead descriptor.tag descriptor.primitiveSize).length :=
        Nat.succ_le_succ (Nat.zero_le _)
      rw [List.length_append, length] at deep
      obtain ⟨depth, rfl⟩ : ∃ less, depth = less + 1 := ⟨depth - 1, by omega⟩
      have each (child : DynDescriptor) (member : child ∈ descriptor.children) :
          ∃ bytes, child.mux = .ok bytes ∧ bytes ≠ [] ∧ Reads (demuxWithin depth) bytes child := by
        obtain ⟨payload, _, childLength, childWritten⟩ := (fits.child member).mux
        refine ⟨_, childWritten, List.cons_ne_nil _ _, ?_⟩
        refine ih child member (fits.child member) (same.child member) childWritten ?_
        have smaller := size_child_lt member
        have childHead := length_descriptorHead child.tag child.primitiveSize
        rw [List.length_append, childLength]
        rw [size_eq, size_eq] at smaller
        omega
      have found := (readsAll_of_reads each inner).untilEnd IoFault.unfinished descriptor.fields
      have made := (ofData_eq_ok_iff (demuxWithin depth) own inner).mpr
        ⟨_, _, found, assemble_children own⟩
      have palindrome := same descriptor .self
      rw [← length] at small palindrome ⊢
      refine (parse_reads small palindrome).finish ?_
      rw [code_tag own]
      exact Reads.ofExcept made

end DynDescriptor

end ScuffleVideo.Mp4
