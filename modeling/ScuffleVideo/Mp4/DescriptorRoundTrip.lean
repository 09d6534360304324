import ScuffleVideo.Mp4.DescriptorTree

/-!
# Descriptors read and written again

A descriptor that is read takes at least the bytes it would be written in.  So if a tree is read
from its own bytes, nothing is left over or dropped on any level, every payload is cut where it
ends, and every size was read as it was written.
-/

namespace ScuffleVideo.Mp4

open Wire Wire.Reader

/-! ## What a head takes -/

theorem bytesRequired_le {rounds size count : Nat} (small : size < 2 ^ 32)
    (few : size < 128 ^ count) (positive : 1 ≤ count) :
    bytesRequired rounds (UInt32.ofNat size) ≤ count := by
  rw [← length_sizeGroups]
  induction rounds generalizing size count with
  | zero => exact Nat.zero_le _
  | succ rounds ih =>
      rw [sizeGroups_succ rounds small]
      split
      · exact positive
      · rename_i further
        obtain ⟨count, rfl⟩ : ∃ fewer, count = fewer + 1 := ⟨count - 1, by omega⟩
        have less : size / 128 < 128 ^ count := by
          rw [Nat.pow_succ] at few
          omega
        have several : 1 ≤ count := by
          rcases Nat.eq_zero_or_pos count with rfl | positive
          · rw [Nat.pow_zero] at less
            omega
          · exact positive
        exact Nat.succ_le_succ (ih (by omega) less several)

namespace DescriptorHeader

/-- Groups hold seven bits each. -/
theorem readGroups_lt {rounds : Nat} {value number : UInt32} {buffer : Bytes}
    {position stop count : Nat} (inside : position ≤ buffer.length)
    (read : readGroups rounds value buffer position = .ok (number, stop))
    (small : value.toNat < 128 ^ count) :
    position < stop ∧ stop ≤ buffer.length ∧ number.toNat < 128 ^ (count + (stop - position)) := by
  induction rounds generalizing value position count with
  | zero => cases read
  | succ rounds ih =>
      obtain ⟨byte, middle, first, more⟩ := bind_eq_ok_iff.mp read
      have taken := Spans.readU8 _ _ _ _ inside first
      have reached : middle = position + 1 := (readUint_inside first).2
      have digit : (byte &&& 0b01111111).toNat < 128 := by
        rw [UInt8.toNat_and]
        exact Nat.and_lt_two_pow _ (by decide : _ < 2 ^ 7)
      have grown : ((value <<< 7) ||| (byte &&& 0b01111111).toUInt32).toNat < 128 ^ (count + 1) := by
        have step := readGroups_step value.toNat (byte &&& 0b01111111).toNat digit
        rw [UInt32.ofNat_toNat] at step
        have cast : UInt32.ofNat (byte &&& 0b01111111).toNat = (byte &&& 0b01111111).toUInt32 := by
          rw [← UInt32.toNat_inj, UInt8.toNat_toUInt32]
          exact UInt32.toNat_ofNat_of_lt' (show _ < 2 ^ 32 by omega)
        rw [cast] at step
        rw [step, UInt32.toNat_ofNat', Nat.pow_succ]
        have cut := Nat.mod_le (value.toNat * 128 + (byte &&& 0b01111111).toNat) (2 ^ 32)
        omega
      split at more
      · cases more
        subst reached
        rw [Nat.add_sub_cancel_left]
        exact ⟨Nat.lt_succ_self _, taken.2, grown⟩
      · have rest := ih taken.2 more grown
        subst reached
        have same : count + 1 + (stop - (position + 1)) = count + (stop - position) := by omega
        rw [same] at rest
        exact ⟨by omega, rest.2⟩

/-- The bytes of a descriptor: its tag, some groups that can hold the length of the payload, and
the payload. -/
theorem parse_took {buffer data : Bytes} {position stop : Nat} {header : DescriptorHeader}
    (inside : position ≤ buffer.length)
    (read : parse buffer position = .ok ((header, data), stop)) :
    ∃ count, 1 ≤ count ∧ stop = position + 1 + count + data.length ∧ stop ≤ buffer.length ∧
      data.length < 128 ^ count ∧ data.length < 2 ^ 32 := by
  obtain ⟨tag, first, tagRead, more⟩ := bind_eq_ok_iff.mp read
  obtain ⟨size, second, sizeRead, rest⟩ := bind_eq_ok_iff.mp more
  obtain ⟨payload, third, cut, done⟩ := bind_eq_ok_iff.mp rest
  cases done
  have tagged := Spans.readU8 _ _ _ _ inside tagRead
  have reached : first = position + 1 := (readUint_inside tagRead).2
  obtain ⟨forward, within, small⟩ :=
    readGroups_lt tagged.2 sizeRead (show (0 : UInt32).toNat < 128 ^ 0 by decide)
  have bound := size.toNat_lt
  rw [Nat.zero_add] at small
  have taken : data.length = size.toNat ∧ stop = second + size.toNat ∧ stop ≤ buffer.length := by
    unfold extractBytes at cut
    split at cut
    · rename_i empty
      cases cut
      rw [empty]
      exact ⟨rfl, rfl, within⟩
    · obtain ⟨same, past, present⟩ := take_eq_ok cut
      rw [same, List.length_take, List.length_drop]
      exact ⟨by omega, past, by omega⟩
  obtain ⟨length, past, present⟩ := taken
  rw [← length] at small bound
  exact ⟨second - first, by omega, by omega, present, small, bound⟩

end DescriptorHeader

/-- Which of the five kinds of descriptors a tag announces. -/
def DescriptorTag.kind : DescriptorTag → Nat
  | .esDescrTag => 0
  | .decoderConfigDescrTag => 1
  | .decSpecificInfoTag => 2
  | .slConfigDescrTag => 3
  | .unknown _ => 4

namespace DynDescriptor

def kind : DynDescriptor → Nat
  | .es _ => 0
  | .decoderConfig _ => 1
  | .decoderSpecificInfo _ => 2
  | .slConfig _ => 3
  | .unknown _ _ => 4

/-! ## What a descriptor takes -/

theorem gap_urlsAll (descriptors : List DynDescriptor) :
    gap (urlsAll descriptors) = (descriptors.map fun descriptor => gap (urls descriptor)).sum := by
  induction descriptors with
  | nil =>
      rw [urlsAll]
      rfl
  | cons descriptor descriptors ih => rw [urlsAll, gap_append, ih, List.map_cons, List.sum_cons]

theorem gap_urls (descriptor : DynDescriptor) :
    gap (urls descriptor) = EsDescriptor.urlGap descriptor.text +
      (descriptor.children.map fun child => gap (urls child)).sum := by
  cases descriptor with
  | es descriptor =>
      obtain ⟨header, esId, streamPriority, dependsOnEsId, url, ocrEsId, config, sl, others⟩ := descriptor
      have own : gap url.toList = EsDescriptor.urlGap url := by
        cases url <;> simp [gap, EsDescriptor.urlGap]
      have inner : gap (urlsOption config) =
          ((config.toList.map decoderConfig).map fun child => gap (urls child)).sum := by
        cases config <;> simp [urlsOption, urls, gap]
      have none : ((sl.toList.map slConfig).map fun child => gap (urls child)).sum = 0 := by
        cases sl <;> simp [urls, gap]
      rw [urls, urlsEs, gap_append, gap_append, own, inner, gap_urlsAll, children, List.map_append,
        List.map_append, List.sum_append, List.sum_append, none, Nat.zero_add]
      rfl
  | decoderConfig descriptor =>
      obtain ⟨header, objectTypeIndication, streamType, upStream, reserved, bufferSizeDb, maxBitrate,
        avgBitrate, info, others⟩ := descriptor
      have none : ((info.toList.map decoderSpecificInfo).map fun child => gap (urls child)).sum = 0 := by
        cases info <;> simp [urls, gap]
      rw [urls, urlsConfig, gap_urlsAll, children, List.map_append, List.sum_append, none,
        Nat.zero_add]
      exact (Nat.zero_add _).symm
  | decoderSpecificInfo descriptor =>
      rw [urls]
      rfl
  | slConfig descriptor =>
      rw [urls]
      rfl
  | unknown header data =>
      rw [urls]
      rfl

/-- The bytes that a descriptor needs: its size, if its texts are ASCII. -/
def need (descriptor : DynDescriptor) : Nat :=
  if gap (urls descriptor) = 0 then descriptor.size else 1

theorem need_pos (descriptor : DynDescriptor) : 1 ≤ descriptor.need := by
  unfold need
  split
  · rw [size_eq, descriptorSize]
    omega
  · exact Nat.le_refl 1

theorem need_eq {descriptor : DynDescriptor} (ascii : gap (urls descriptor) = 0) :
    descriptor.need = descriptor.size := if_pos ascii

/-- What the children of a descriptor with ASCII texts need. -/
theorem need_children {descriptor : DynDescriptor} (ascii : gap (urls descriptor) = 0) :
    EsDescriptor.urlGap descriptor.text = 0 ∧
      (descriptor.children.map need).sum = sizes descriptor.children := by
  rw [gap_urls] at ascii
  have each : ∀ child ∈ descriptor.children, gap (urls child) = 0 := by
    have all : (descriptor.children.map fun child => gap (urls child)).sum = 0 := by omega
    rw [List.sum_eq_zero_iff_forall_eq_nat, List.forall_mem_map] at all
    exact all
  refine ⟨by omega, ?_⟩
  rw [sizes_eq_sum]
  exact congrArg List.sum (List.map_congr_left fun child member => need_eq (each child member))

/-- The last of some values weighs no more than all of them. -/
theorem sum_getLast_le {α : Type} (values : List α) (weight : α → Nat) :
    (values.getLast?.toList.map weight).sum ≤ (values.map weight).sum := by
  rcases List.eq_nil_or_concat' values with rfl | ⟨init, last, rfl⟩
  · exact Nat.le_refl _
  · rw [List.getLast?_concat, List.map_append, List.sum_append, Option.toList_some, List.map_singleton]
    exact Nat.le_add_left _ _

/-- If values weigh no more than the last of them, it is the only one. -/
theorem eq_getLast_of_sum_le {α : Type} {values : List α} {weight : α → Nat}
    (positive : ∀ value, 1 ≤ weight value)
    (small : (values.map weight).sum ≤ (values.getLast?.toList.map weight).sum) :
    values = values.getLast?.toList := by
  rcases List.eq_nil_or_concat' values with rfl | ⟨init, last, rfl⟩
  · rfl
  · rw [List.getLast?_concat, List.map_append, List.sum_append, Option.toList_some, List.map_singleton] at small
    have empty : init = [] := by
      cases init with
      | nil => rfl
      | cons value init =>
          have heavy := positive value
          rw [List.map_cons, List.sum_cons] at small
          omega
    rw [empty]
    rfl

/-- What was found in a stream descriptor, by the field it goes to. -/
theorem need_found_es (found : List DynDescriptor) :
    (found.map need).sum =
      ((found.filterMap asDecoderConfig).map fun config => need (.decoderConfig config)).sum +
      (((found.filterMap asSLConfig).map fun sl => need (.slConfig sl)).sum +
      ((found.filter fun descriptor => (asDecoderConfig descriptor).isNone &&
        (asSLConfig descriptor).isNone).map need).sum) := by
  induction found with
  | nil => rfl
  | cons descriptor found ih =>
      rw [List.map_cons, List.sum_cons, ih]
      cases config : asDecoderConfig descriptor with
      | some inner =>
          cases descriptor <;> cases config
          simp [pick_decoderConfig]
          omega
      | none =>
          cases sl : asSLConfig descriptor with
          | some inner =>
              cases descriptor <;> cases sl
              simp [pick_slConfig]
              omega
          | none =>
              simp [config, sl]
              omega

theorem need_found_config (found : List DynDescriptor) :
    (found.map need).sum =
      ((found.filterMap asDecoderSpecificInfo).map fun info => need (.decoderSpecificInfo info)).sum +
      ((found.filter fun descriptor => (asDecoderSpecificInfo descriptor).isNone).map need).sum := by
  induction found with
  | nil => rfl
  | cons descriptor found ih =>
      rw [List.map_cons, List.sum_cons, ih]
      cases info : asDecoderSpecificInfo descriptor with
      | some inner =>
          cases descriptor <;> cases info
          simp [asDecoderSpecificInfo]
          omega
      | none =>
          simp [info]
          omega

/-- The children of an assembled descriptor are among those found. -/
theorem need_assemble_le (descriptor : DynDescriptor) (found : List DynDescriptor) :
    ((descriptor.assemble found).children.map need).sum ≤ (found.map need).sum := by
  cases descriptor with
  | es descriptor =>
      have configs := sum_getLast_le (found.filterMap asDecoderConfig)
        fun config => need (.decoderConfig config)
      have sls := sum_getLast_le (found.filterMap asSLConfig) fun sl => need (.slConfig sl)
      rw [need_found_es found, assemble, children, List.map_append, List.map_append, List.sum_append,
        List.sum_append, List.map_map, List.map_map]
      exact Nat.add_le_add configs (Nat.add_le_add_right sls _)
  | decoderConfig descriptor =>
      have infos := sum_getLast_le (found.filterMap asDecoderSpecificInfo)
        fun info => need (.decoderSpecificInfo info)
      rw [need_found_config found, assemble, children, List.map_append, List.sum_append, List.map_map]
      exact Nat.add_le_add_right infos _
  | _ => exact Nat.zero_le _

theorem filter_kind {α : Type} {wrap : α → DynDescriptor} {pick : DynDescriptor → Option α}
    {number : Nat} (picked : ∀ descriptor value, pick descriptor = some value ↔ descriptor = wrap value)
    (known : ∀ descriptor : DynDescriptor, descriptor.kind = number ↔ (pick descriptor).isSome)
    (descriptors : List DynDescriptor) :
    (descriptors.filter fun descriptor => descriptor.kind == number) =
      (descriptors.filterMap pick).map wrap := by
  induction descriptors with
  | nil => rfl
  | cons descriptor descriptors ih =>
      have here := known descriptor
      cases found : pick descriptor with
      | some value =>
          rw [found] at here
          rw [List.filterMap_cons_some found, List.map_cons, ← ih, ← (picked descriptor value).mp found]
          simp [here]
      | none =>
          rw [found] at here
          simp [here, found, ih]

theorem filter_decoderConfig (descriptors : List DynDescriptor) :
    (descriptors.filter fun descriptor => descriptor.kind == 1) =
      (descriptors.filterMap asDecoderConfig).map .decoderConfig := by
  refine filter_kind (fun descriptor value => ?_) (fun descriptor => ?_) descriptors
  · cases descriptor <;> simp [asDecoderConfig]
  · cases descriptor <;> simp [kind, asDecoderConfig]

theorem filter_slConfig (descriptors : List DynDescriptor) :
    (descriptors.filter fun descriptor => descriptor.kind == 3) =
      (descriptors.filterMap asSLConfig).map .slConfig := by
  refine filter_kind (fun descriptor value => ?_) (fun descriptor => ?_) descriptors
  · cases descriptor <;> simp [asSLConfig]
  · cases descriptor <;> simp [kind, asSLConfig]

theorem filter_decoderSpecificInfo (descriptors : List DynDescriptor) :
    (descriptors.filter fun descriptor => descriptor.kind == 2) =
      (descriptors.filterMap asDecoderSpecificInfo).map .decoderSpecificInfo := by
  refine filter_kind (fun descriptor value => ?_) (fun descriptor => ?_) descriptors
  · cases descriptor <;> simp [asDecoderSpecificInfo]
  · cases descriptor <;> simp [kind, asDecoderSpecificInfo]

/-- A part of a list that only some kind can be in. -/
theorem filter_and_kind (descriptors : List DynDescriptor) (number : Nat) (part : Nat → Bool) :
    (descriptors.filter fun descriptor => descriptor.kind == number && part descriptor.kind) =
      if part number then descriptors.filter fun descriptor => descriptor.kind == number else [] := by
  have known : (fun descriptor : DynDescriptor => descriptor.kind == number && part descriptor.kind) =
      fun descriptor => descriptor.kind == number && part number := by
    funext descriptor
    by_cases same : descriptor.kind = number
    · rw [same]
    · rw [beq_false_of_ne same, Bool.false_and, Bool.false_and]
  rw [known]
  cases part number with
  | true => simp only [Bool.and_true, if_true]
  | false => simp

/-- What was found of a kind, from the parts that go to the fields of a stream descriptor. -/
theorem filter_found_es (found : List DynDescriptor) (number : Nat) :
    (found.filter fun descriptor => descriptor.kind == number) =
      ((found.filterMap asDecoderConfig).map decoderConfig ++
        ((found.filterMap asSLConfig).map slConfig ++
        found.filter fun descriptor => (asDecoderConfig descriptor).isNone &&
          (asSLConfig descriptor).isNone)).filter fun descriptor => descriptor.kind == number := by
  have others (descriptor : DynDescriptor) :
      ((asDecoderConfig descriptor).isNone && (asSLConfig descriptor).isNone) =
        (descriptor.kind != 1 && descriptor.kind != 3) := by
    cases descriptor <;> rfl
  simp only [others, ← filter_decoderConfig, ← filter_slConfig, List.filter_append, List.filter_filter]
  rw [filter_and_kind found number (· == 1), filter_and_kind found number (· == 3),
    filter_and_kind found number fun kind => kind != 1 && kind != 3]
  by_cases first : number = 1
  · subst first
    simp
  · by_cases second : number = 3
    · subst second
      simp
    · simp [first, second]

theorem filter_found_config (found : List DynDescriptor) (number : Nat) :
    (found.filter fun descriptor => descriptor.kind == number) =
      ((found.filterMap asDecoderSpecificInfo).map decoderSpecificInfo ++
        found.filter fun descriptor => (asDecoderSpecificInfo descriptor).isNone).filter
          fun descriptor => descriptor.kind == number := by
  have others (descriptor : DynDescriptor) :
      (asDecoderSpecificInfo descriptor).isNone = (descriptor.kind != 2) := by
    cases descriptor <;> rfl
  simp only [others, ← filter_decoderSpecificInfo, List.filter_append, List.filter_filter]
  rw [filter_and_kind found number (· == 2), filter_and_kind found number (· != 2)]
  by_cases first : number = 2
  · subst first
    simp
  · simp [first]

/-- If what was found needs no more than the children do, nothing was dropped: the children of
each kind are those found of that kind. -/
theorem filter_of_need_le {descriptor : DynDescriptor} {found : List DynDescriptor}
    (small : (found.map need).sum ≤ ((descriptor.assemble found).children.map need).sum)
    (number : Nat) :
    (found.filter fun descriptor => descriptor.kind == number) =
      (descriptor.assemble found).children.filter fun descriptor => descriptor.kind == number := by
  cases descriptor with
  | es descriptor =>
      have configsLe := sum_getLast_le (found.filterMap asDecoderConfig)
        fun config => need (.decoderConfig config)
      have slsLe := sum_getLast_le (found.filterMap asSLConfig) fun sl => need (.slConfig sl)
      rw [need_found_es found, assemble, children, List.map_append, List.map_append,
        List.sum_append, List.sum_append, List.map_map, List.map_map] at small
      change _ ≤ ((found.filterMap asDecoderConfig).getLast?.toList.map fun config =>
          need (.decoderConfig config)).sum +
        (((found.filterMap asSLConfig).getLast?.toList.map fun sl => need (.slConfig sl)).sum +
        ((found.filter fun descriptor => (asDecoderConfig descriptor).isNone &&
          (asSLConfig descriptor).isNone).map need).sum) at small
      have configs := eq_getLast_of_sum_le (fun config => need_pos (.decoderConfig config))
        (show ((found.filterMap asDecoderConfig).map _).sum ≤ _ by omega)
      have sls := eq_getLast_of_sum_le (fun sl => need_pos (.slConfig sl))
        (show ((found.filterMap asSLConfig).map _).sum ≤ _ by omega)
      rw [filter_found_es found, configs, sls]
      rfl
  | decoderConfig descriptor =>
      rw [need_found_config found, assemble, children, List.map_append, List.sum_append,
        List.map_map] at small
      have infos := eq_getLast_of_sum_le (fun info => need_pos (.decoderSpecificInfo info))
        (Nat.le_of_add_le_add_right small)
      rw [filter_found_config found, infos]
      rfl
  | _ =>
      have empty : found = [] := by
        cases found with
        | nil => rfl
        | cons first found =>
            have heavy := need_pos first
            rw [List.map_cons, List.sum_cons] at small
            change _ ≤ 0 at small
            omega
      rw [empty]
      rfl

/-! ## Readers take what their values need -/

theorem length_optional_eq {α : Type} (encode : α → Bytes) (value : Option α) :
    (optional encode value).length = value.elim 0 fun inner => (encode inner).length := by
  cases value <;> rfl

/-- The payload that a descriptor needs. -/
def needPayload (descriptor : DynDescriptor) : Nat :=
  if gap (urls descriptor) = 0 then descriptor.primitiveSize else 0

/-- A payload holds the fields of its descriptor and what was found behind them. -/
theorem needPayload_le {descriptor : DynDescriptor} {found : List DynDescriptor}
    (same : descriptor.assemble found = descriptor) :
    descriptor.needPayload ≤ descriptor.fields.length + (found.map need).sum := by
  unfold needPayload
  split
  · rename_i ascii
    obtain ⟨own, inner⟩ := need_children ascii
    have kept := need_assemble_le descriptor found
    rw [same, inner] at kept
    rw [primitiveSize_eq, own]
    omega
  · exact Nat.zero_le _

theorem spans_readUrl :
    Spans EsDescriptor.readUrl fun url => (EsDescriptor.urlBytes url).length := by
  refine Spans.readU8.bind fun size => (Spans.readU8.repeated size.toNat).map fun chars => ?_
  rw [EsDescriptor.urlBytes, List.length_append, List.length_map, List.length_singleton, ofByteChars,
    String.toList_ofList, List.length_map, List.map_const', List.sum_replicate]
  simp

theorem spans_readEs {nested : Reader IoFault DynDescriptor} (inner : Spans nested need)
    (header : DescriptorHeader) :
    Spans (readEs nested header) fun descriptor => needPayload (.es descriptor) := by
  refine Spans.readU16.bind fun esId => ?_
  refine Spans.readU8.bind fun flag => ?_
  refine (Spans.readU16.optionally _).bind fun dependsOnEsId => ?_
  refine (spans_readUrl.optionally _).bind fun url => ?_
  refine (Spans.readU16.optionally _).bind fun ocrEsId => ?_
  refine (inner.untilEnd _).bind fun found => Spans.pure ?_
  have held := @needPayload_le (.es ⟨header, esId, flag &&& 0b00011111, dependsOnEsId, url, ocrEsId,
    lastOf asDecoderConfig found, lastOf asSLConfig found, found.filter fun descriptor =>
      (asDecoderConfig descriptor).isNone && (asSLConfig descriptor).isNone⟩) found rfl
  have first := length_optional_eq beU16 dependsOnEsId
  have second := length_optional_eq EsDescriptor.urlBytes url
  have third := length_optional_eq beU16 ocrEsId
  simp only [length_beU16] at first third
  simp only [fields, List.length_append, length_beU16, List.length_singleton, first, second,
    third] at held
  omega

theorem spans_readConfig {nested : Reader IoFault DynDescriptor} (inner : Spans nested need)
    (header : DescriptorHeader) :
    Spans (readConfig nested header) fun descriptor => needPayload (.decoderConfig descriptor) := by
  refine Spans.readU8.bind fun objectTypeIndication => ?_
  refine Spans.readU8.bind fun byte => ?_
  refine Spans.readU24.bind fun bufferSizeDb => ?_
  refine Spans.readU32.bind fun maxBitrate => ?_
  refine Spans.readU32.bind fun avgBitrate => ?_
  refine (inner.untilEnd _).bind fun found => Spans.pure ?_
  have held := @needPayload_le (.decoderConfig ⟨header, objectTypeIndication, byte >>> 2,
    byte &&& 0b00000010 != 0, byte &&& 0b00000001, bufferSizeDb, maxBitrate, avgBitrate,
    lastOf asDecoderSpecificInfo found,
    found.filter fun descriptor => (asDecoderSpecificInfo descriptor).isNone⟩) found rfl
  simp only [fields, List.length_append, length_toBytesBE, length_beU32, List.length_singleton] at held
  omega

theorem needPayload_of_parse {α : Type} {reader : Reader IoFault α} {data : Bytes} {value : α} {need : α → Nat}
    (spans : Spans reader need) (read : reader.parse data = .ok value) :
    need value ≤ data.length := by
  obtain ⟨stop, done⟩ := ok_of_parse read
  have both := spans _ _ _ _ (Nat.zero_le _) done
  omega

/-- A descriptor fits the payload it was read from. -/
theorem needPayload_of_ofData {nested : Reader IoFault DynDescriptor} (inner : Spans nested need)
    {header : DescriptorHeader} {data : Bytes} {descriptor : DynDescriptor}
    (read : ofData nested header data = .ok descriptor) :
    descriptor.needPayload ≤ data.length ∧ descriptor.kind = header.tag.kind := by
  have own (descriptor : DynDescriptor) : descriptor.needPayload ≤ descriptor.primitiveSize := by
    unfold needPayload
    split
    · exact Nat.le_refl _
    · exact Nat.zero_le _
  unfold ofData at read
  split at read
  · rename_i tag
    obtain ⟨es, done, same⟩ := sequence_eq_ok_iff.mp read
    cases same
    rw [tag]
    have held := needPayload_of_parse (spans_readEs inner header) done
    exact ⟨held, rfl⟩
  · rename_i tag
    obtain ⟨config, done, same⟩ := sequence_eq_ok_iff.mp read
    cases same
    rw [tag]
    have held := needPayload_of_parse (spans_readConfig inner header) done
    exact ⟨held, rfl⟩
  · rename_i tag
    cases read
    rw [tag]
    exact ⟨own _, rfl⟩
  · rename_i tag
    rw [tag]
    cases data with
    | nil => cases read
    | cons predefined data =>
        cases read
        refine ⟨Nat.le_trans (own _) ?_, rfl⟩
        rw [primitiveSize, SLConfigDescriptor.primitiveSize, List.length_cons, Nat.add_comm]
  · rename_i tag
    cases read
    rw [tag]
    exact ⟨own _, rfl⟩

theorem spans_demuxWithin (depth : Nat) : Spans (demuxWithin depth) need := by
  induction depth with
  | zero => exact Spans.fail _ _
  | succ depth ih =>
      intro buffer position stop descriptor inside read
      obtain ⟨⟨header, data⟩, middle, cut, more⟩ := bind_eq_ok_iff.mp read
      obtain ⟨made, reached⟩ := ok_of_ofExcept (show Reader.ofExcept _ _ _ = _ from more)
      subst reached
      obtain ⟨count, some, reached, within, few, small⟩ := DescriptorHeader.parse_took inside cut
      have held := (needPayload_of_ofData ih made).1
      refine ⟨?_, within⟩
      unfold need
      unfold needPayload at held
      split
      · rename_i ascii
        rw [if_pos ascii] at held
        have groups := @bytesRequired_le 5 descriptor.primitiveSize count (by omega) (by omega) some
        rw [size_eq, descriptorSize]
        omega
      · omega

/-! ## Exact reads -/

/-- The descriptor comes back from its bytes inside the buffer, and nothing else is taken. -/
def ReadExactly (depth : Nat) (buffer : Bytes) (descriptor : DynDescriptor) : Prop :=
  ∃ before bytes after, descriptor.mux = .ok bytes ∧ buffer = before ++ bytes ++ after ∧
    demuxWithin depth buffer before.length = .ok (descriptor, before.length + bytes.length)

theorem kind_eq {descriptor : DynDescriptor} (fits : descriptor.FieldsFit) :
    descriptor.kind = descriptor.tag.kind := by
  cases descriptor with
  | unknown header data =>
      obtain ⟨code, known, _⟩ := fits
      rw [tag, known]
      rfl
  | _ => rfl

/-- What is read where a descriptor stands is of its kind. -/
theorem kind_of_read {descriptor found : DynDescriptor} (fits : descriptor.WellFormed)
    {depth stop : Nat} {before bytes after : Bytes} (written : descriptor.mux = .ok bytes)
    (read : demuxWithin depth (before ++ bytes ++ after) before.length = .ok (found, stop)) :
    found.kind = descriptor.kind := by
  have own := (fits descriptor .self).1
  obtain ⟨rest, _, _, whole⟩ := fits.mux
  cases whole.symm.trans written
  cases depth with
  | zero => cases read
  | succ depth =>
      obtain ⟨⟨header, data⟩, middle, cut, more⟩ := bind_eq_ok_iff.mp read
      obtain ⟨made, _⟩ := ok_of_ofExcept (show Reader.ofExcept _ _ _ = _ from more)
      obtain ⟨code, first, tagRead, rest⟩ := bind_eq_ok_iff.mp cut
      obtain ⟨_, _, _, rest⟩ := bind_eq_ok_iff.mp rest
      obtain ⟨_, _, _, same⟩ := bind_eq_ok_iff.mp rest
      cases same
      rw [(needPayload_of_ofData (spans_demuxWithin depth) made).2, kind_eq own, ← code_tag own]
      have known := Reads.readU8 (ε := IoFault) descriptor.tag.code before
      rw [descriptorHead] at tagRead
      simp only [List.append_assoc] at tagRead known
      cases (known _).symm.trans tagRead
      rfl

theorem WellFormed.ascii {descriptor : DynDescriptor} (fits : descriptor.WellFormed) :
    gap (urls descriptor) = 0 := by
  induction descriptor using childInduction with
  | step descriptor ih =>
      rw [gap_urls, urlGap_eq_zero (fits descriptor .self).1, Nat.zero_add,
        List.sum_eq_zero_iff_forall_eq_nat, List.forall_mem_map]
      exact fun child member => ih child member (fits.child member)

theorem WellFormed.length_mux {descriptor : DynDescriptor} (fits : descriptor.WellFormed)
    {bytes : Bytes} (written : descriptor.mux = .ok bytes) : bytes.length = descriptor.size := by
  have counted := DynDescriptor.length_mux descriptor written
  rw [fits.ascii] at counted
  exact counted

theorem length_muxAll_of_wellFormed {descriptors : List DynDescriptor}
    (fits : ∀ descriptor ∈ descriptors, descriptor.WellFormed) {bytes : Bytes}
    (written : muxAll descriptors = .ok bytes) : bytes.length = (descriptors.map need).sum := by
  have counted := length_muxAll descriptors written
  have none : (descriptors.map fun descriptor => gap (urls descriptor)).sum = 0 := by
    rw [List.sum_eq_zero_iff_forall_eq_nat, List.forall_mem_map]
    exact fun descriptor member => (fits descriptor member).ascii
  rw [gap_urlsAll, none, sizes_eq_sum, Nat.add_zero] at counted
  rw [counted]
  exact congrArg List.sum (List.map_congr_left fun descriptor member =>
    (need_eq (fits descriptor member).ascii).symm)

/-- Lists with the same elements of every kind, whose heads are of one kind. -/
theorem cons_of_filter_kind {first second : DynDescriptor} {firsts seconds : List DynDescriptor}
    (same : ∀ number, ((first :: firsts).filter fun descriptor => descriptor.kind == number) =
      (second :: seconds).filter fun descriptor => descriptor.kind == number)
    (heads : first.kind = second.kind) :
    first = second ∧ ∀ number, (firsts.filter fun descriptor => descriptor.kind == number) =
      seconds.filter fun descriptor => descriptor.kind == number := by
  have here := same second.kind
  rw [List.filter_cons_of_pos (by rw [heads, beq_self_eq_true]),
    List.filter_cons_of_pos (by rw [beq_self_eq_true])] at here
  refine ⟨List.head_eq_of_cons_eq here, fun number => ?_⟩
  by_cases kind : second.kind = number
  · subst kind
    exact List.tail_eq_of_cons_eq here
  · have there := same number
    rwa [List.filter_cons_of_neg (by rw [heads, beq_false_of_ne kind]; exact Bool.false_ne_true),
      List.filter_cons_of_neg (by rw [beq_false_of_ne kind]; exact Bool.false_ne_true)] at there

/-- If a scan over written descriptors finds them all, it takes each of them exactly. -/
theorem readExactly_of_scans {depth : Nat} {before bytes : Bytes}
    {written found : List DynDescriptor} {stop : Nat}
    (fits : ∀ descriptor ∈ written, descriptor.WellFormed) (muxed : muxAll written = .ok bytes)
    (scans : Scans (demuxWithin depth) (before ++ bytes) before.length found stop)
    (same : ∀ number, (found.filter fun descriptor => descriptor.kind == number) =
      written.filter fun descriptor => descriptor.kind == number)
    (total : (written.map need).sum ≤ (found.map need).sum) :
    ∀ descriptor ∈ written, ReadExactly depth (before ++ bytes) descriptor := by
  induction written generalizing before bytes found with
  | nil =>
      intro descriptor member
      cases member
  | cons descriptor written ih =>
      have whole := fits descriptor List.mem_cons_self
      have others : ∀ other ∈ written, other.WellFormed :=
        fun other member => fits other (List.mem_cons_of_mem _ member)
      rw [muxAll] at muxed
      obtain ⟨first, firstMuxed, more⟩ := sequence_eq_ok_iff.mp muxed
      obtain ⟨rest, restMuxed, joined⟩ := sequence_eq_ok_iff.mp more
      cases joined
      have firstLength : first.length = descriptor.need :=
        (whole.length_mux firstMuxed).trans (need_eq whole.ascii).symm
      have restLength := length_muxAll_of_wellFormed others restMuxed
      cases scans with
      | done past =>
          have here := same descriptor.kind
          rw [List.filter_cons_of_pos (by rw [beq_self_eq_true])] at here
          cases here
      | @step _ middle _ head found read scans =>
          rw [← List.append_assoc] at read scans ⊢
          obtain ⟨rfl, alike⟩ := cons_of_filter_kind same (kind_of_read whole firstMuxed read)
          rw [List.map_cons, List.sum_cons, List.map_cons, List.sum_cons] at total
          have early := spans_demuxWithin depth _ _ _ _
            (by rw [List.length_append, List.length_append]; omega) read
          have late := scans.need_le (spans_demuxWithin depth) early.2
          have exactly : middle = (before ++ first).length := by
            rw [List.length_append, List.length_append] at late
            rw [List.length_append]
            omega
          subst exactly
          intro descriptor member
          rcases List.mem_cons.mp member with rfl | member
          · rw [List.length_append] at read
            exact ⟨before, first, rest, firstMuxed, rfl, read⟩
          · exact ih others restMuxed scans alike (by omega) descriptor member

theorem Inside.cases_child {tree descriptor : DynDescriptor} (inside : Inside tree descriptor) :
    descriptor = tree ∨ ∃ child ∈ tree.children, Inside child descriptor := by
  induction inside with
  | self => exact .inl rfl
  | child inside member ih =>
      rcases ih with rfl | ⟨child, among, inner⟩
      · exact .inr ⟨_, member, .self⟩
      · exact .inr ⟨child, among, inner.child member⟩

/-- If a payload is cut where it ends, its size is the same both ways round. -/
theorem parse_exact {tag : DescriptorTag} {before payload after data : Bytes}
    {header : DescriptorHeader} (small : payload.length < 2 ^ 28)
    (read : DescriptorHeader.parse
      (before ++ (descriptorHead tag payload.length ++ payload) ++ after) before.length =
        .ok ((header, data),
          before.length + (descriptorHead tag payload.length ++ payload).length)) :
    (Nat.digits 128 payload.length).Palindrome ∧ header = ⟨.ofCode tag.code⟩ ∧ data = payload := by
  have palindrome : (Nat.digits 128 payload.length).Palindrome := by
    have leads : Leads DescriptorHeader.parse
        (do return (⟨.ofCode tag.code⟩,
          ← extractBytes (UInt32.ofNat (mirrored payload.length)).toNat))
        (descriptorHead tag payload.length) :=
      (Reads.readU8 tag.code).leads (DescriptorHeader.readSize_reads small).leadsLast
    have start := leads before (payload ++ after)
    have same : before ++ (descriptorHead tag payload.length ++ payload) ++ after =
        before ++ descriptorHead tag payload.length ++ (payload ++ after) := by
      simp only [List.append_assoc]
    rw [same, start] at read
    obtain ⟨_, stop, cut, done⟩ := bind_eq_ok_iff.mp read
    cases done
    have whole := mirrored_lt small
    have number : (UInt32.ofNat (mirrored payload.length)).toNat = mirrored payload.length :=
      UInt32.toNat_ofNat_of_lt' (show _ < 2 ^ 32 by omega)
    rw [number, List.length_append] at cut
    rw [← mirrored_eq_iff]
    unfold extractBytes at cut
    split at cut
    · have reached : before.length + (descriptorHead tag payload.length).length =
          before.length + ((descriptorHead tag payload.length).length + payload.length) :=
        congrArg Prod.snd (Except.ok.inj cut)
      omega
    · obtain ⟨_, reached, _⟩ := take_eq_ok cut
      omega
  cases (parse_reads small palindrome before after).symm.trans read
  exact ⟨palindrome, rfl, rfl⟩

/-- Only sizes that are the same both ways round are read back. -/
theorem palindromic_of_readExactly {tree : DynDescriptor} (fits : tree.WellFormed) {depth : Nat}
    {buffer : Bytes} (read : ReadExactly depth buffer tree) : tree.Palindromic := by
  induction tree using childInduction generalizing depth buffer with
  | step descriptor ih =>
      obtain ⟨own, small⟩ := fits descriptor .self
      obtain ⟨rest, inner, length, whole⟩ := fits.mux
      obtain ⟨before, bytes, after, written, rfl, read⟩ := read
      cases whole.symm.trans written
      cases depth with
      | zero => cases read
      | succ depth =>
          obtain ⟨⟨header, data⟩, middle, cut, more⟩ := bind_eq_ok_iff.mp read
          obtain ⟨made, reached⟩ := ok_of_ofExcept (show Reader.ofExcept _ _ _ = _ from more)
          subst reached
          rw [← length] at small cut
          obtain ⟨palindrome, rfl, rfl⟩ := parse_exact small cut
          rw [code_tag own] at made
          obtain ⟨found, stop, scanned, same⟩ := (ofData_eq_ok_iff _ own inner).mp made
          have children : ∀ child ∈ descriptor.children, child.WellFormed :=
            fun child member => fits.child member
          have scans := scans_of_whileRemaining scanned
          have total := need_assemble_le descriptor found
          have room := scans.need_le (spans_demuxWithin depth) (by rw [List.length_append]; omega)
          rw [List.length_append, length_muxAll_of_wellFormed children inner] at room
          have alike := @filter_of_need_le descriptor found (by rw [same]; omega)
          rw [same] at total alike
          have exactly := readExactly_of_scans children inner scans alike total
          intro descendant inside
          rcases inside.cases_child with rfl | ⟨child, member, inside⟩
          · rw [← length]
            exact palindrome
          · exact ih child member (children child member) (exactly child member) descendant inside

/-! ## Round trips -/

/-- The tree is written in as many bytes as it measures, and reading them gives it back. -/
def RoundTrips (tree : DynDescriptor) : Prop :=
  ∃ bytes, tree.mux = .ok bytes ∧ bytes.length = tree.size ∧ demux.parse bytes = .ok tree

theorem palindromic_of_roundTrips {tree : DynDescriptor} (fits : tree.WellFormed)
    (trip : tree.RoundTrips) : tree.Palindromic := by
  obtain ⟨bytes, written, length, back⟩ := trip
  obtain ⟨stop, read⟩ := ok_of_parse back
  have taken := spans_demuxWithin (bytes.length + 1) _ _ _ _ (Nat.zero_le _) read
  rw [need_eq fits.ascii, ← length] at taken
  have reached : stop = bytes.length := by omega
  rw [reached] at read
  refine @palindromic_of_readExactly tree fits (bytes.length + 1) bytes
    ⟨[], bytes, [], written, by rw [List.nil_append, List.append_nil], ?_⟩
  rw [List.length_nil, Nat.zero_add]
  exact read

/-- A well-formed tree comes back exactly when every size in it is the same both ways round. -/
theorem tree_roundTrips_iff (tree : DynDescriptor) (fits : tree.WellFormed) :
    tree.RoundTrips ↔ ∀ descriptor, Inside tree descriptor →
      (Nat.digits 128 descriptor.primitiveSize).Palindrome := by
  refine ⟨palindromic_of_roundTrips fits, fun same => ?_⟩
  obtain ⟨rest, _, _, written⟩ := fits.mux
  refine ⟨_, written, fits.length_mux written, ?_⟩
  have read := reads_of_palindromic fits same written (Nat.le_succ _) [] []
  rw [List.nil_append, List.append_nil, List.length_nil] at read
  unfold Reader.parse demux
  rw [read]

theorem wellFormed_leaf {descriptor : DynDescriptor} (alone : descriptor.children = [])
    (fits : descriptor.FieldsFit) (small : descriptor.primitiveSize < 2 ^ 28) :
    descriptor.WellFormed := by
  intro inner inside
  rcases inside.cases_child with rfl | ⟨child, member, _⟩
  · exact ⟨fits, small⟩
  · rw [alone] at member
    cases member

/-- Decoder specific bytes. -/
def specificInfo (data : Bytes) : DynDescriptor := .decoderSpecificInfo ⟨⟨.decSpecificInfoTag⟩, data⟩

theorem specificInfo_wellFormed {data : Bytes} (small : data.length < 2 ^ 28) :
    (specificInfo data).WellFormed := by
  have fits : (specificInfo data).FieldsFit := rfl
  exact wellFormed_leaf rfl fits small

/-- A stream descriptor around decoder specific bytes. -/
def smallTree : DynDescriptor :=
  .es ⟨⟨.esDescrTag⟩, 2, 0, none, none, none, none, none, [specificInfo [0x12, 0x10]]⟩

theorem smallTree_roundTrips : smallTree.RoundTrips := by
  have inside : ∀ descriptor, Inside smallTree descriptor →
      descriptor = smallTree ∨ descriptor = specificInfo [0x12, 0x10] := by
    intro descriptor inside
    rcases inside.cases_child with rfl | ⟨child, member, inside⟩
    · exact .inl rfl
    · rw [List.mem_singleton.mp (show child ∈ [specificInfo [0x12, 0x10]] from member)] at inside
      rcases inside.cases_child with rfl | ⟨child, member, _⟩
      · exact .inr rfl
      · cases member
  refine (tree_roundTrips_iff smallTree fun descriptor within => ?_).mpr fun descriptor within => ?_
  · rcases inside descriptor within with rfl | rfl
    · refine ⟨⟨rfl, by decide, fun _ => nofun, fun other member => ?_⟩, by decide⟩
      rw [List.mem_singleton.mp member]
      exact ⟨rfl, rfl⟩
    · exact specificInfo_wellFormed (by decide) _ .self
  · have short {size : Nat} (some : size ≠ 0) (small : size < 128) :
        (Nat.digits 128 size).Palindrome := by
      rw [Nat.digits_of_lt 128 size some small]
      exact .singleton size
    rcases inside descriptor within with rfl | rfl
    · exact short (by decide) (by decide)
    · exact short (by decide) (by decide)

/-- The size of 128 bytes is written as the groups 0 and 1, and read as 1. -/
theorem longInfo_lost : ¬ ∀ tree : DynDescriptor, tree.WellFormed → tree.RoundTrips := by
  intro all
  have length : (List.replicate 128 (0 : UInt8)).length = 128 := List.length_replicate
  have fits : (specificInfo (List.replicate 128 0)).WellFormed :=
    specificInfo_wellFormed (by rw [length]; decide)
  have same := palindromic_of_roundTrips fits (all _ fits) _ .self
  have size : (specificInfo (List.replicate 128 0)).primitiveSize = 128 := length
  have groups : Nat.digits 128 128 = [0, 1] := by norm_num
  rw [List.Palindrome.iff_reverse_eq, size, groups] at same
  cases same

end DynDescriptor

end ScuffleVideo.Mp4
