import ScuffleVideo.Av1.SequenceHeader
import ScuffleVideo.Wire.BitGrammar
import Mathlib.Data.Nat.Bitwise
import Mathlib.Tactic.Ring

/-!
# Headers of AV1 units

A unit starts with its type and two flags.  The flags say if an extension and the size of the
unit follow; the size is a little-endian number of at most eight groups of seven bits.  The
parser accepts exactly such headers, and takes nothing behind them.
-/

namespace ScuffleVideo.Av1

open Wire BitReader

/-! ## Reading -/

/-- The groups from a number on, of which so many may be left. -/
def readGroups : Nat → Nat → UInt64 → BitReader UInt64
  | _, 0, result => pure result
  | i, left + 1, result => do
      let byte ← readBits 8
      let result := result ||| ((byte &&& 0x7f) <<< UInt64.ofNat (i * 7))
      if byte &&& 0x80 = 0 then return result else readGroups (i + 1) left result

def readLeb128 : BitReader UInt64 := readGroups 0 8 0

def ObuType.fromU8 (value : UInt8) : ObuType :=
  match value.toNat with
  | 1 => .sequenceHeader
  | 2 => .temporalDelimiter
  | 3 => .frameHeader
  | 4 => .tileGroup
  | 5 => .metadata
  | 6 => .frame
  | 7 => .redundantFrameHeader
  | 8 => .tileList
  | 15 => .padding
  | _ => .reserved value

def ObuExtensionHeader.read : BitReader ObuExtensionHeader := do
  let temporalId ← readBits 3
  let spatialId ← readBits 2
  let _ ← readBits 3
  return ⟨temporalId.toUInt8, spatialId.toUInt8⟩

namespace ObuHeader

/-- The fields of a header. -/
def readFields : BitReader ObuHeader := do
  let forbidden ← readBit
  refuse forbidden "obu_forbidden_bit is not 0"
  let obuType ← readBits 4
  let extensionFlag ← readBit
  let hasSizeField ← readBit
  let _ ← readBit
  let extensionHeader ← optionally extensionFlag ObuExtensionHeader.read
  let size ← optionally hasSizeField readLeb128
  return ⟨.fromU8 obuType.toUInt8, size, extensionHeader⟩

/-- The last check: the reader must not stand inside a byte. -/
def finish (header : ObuHeader) (state : BitState) : Reader IoFault ObuHeader :=
  if !isAligned state then Reader.fail (.invalidData "bit reader is not aligned")
  else return header

def parse : Reader IoFault ObuHeader := do
  let (header, state) ← run readFields
  finish header state

end ObuHeader

/-! ## The codes -/

/-- Groups of seven bits, the low ones first, of which so many may be left.  A set bit in front
of a group says that another one follows, unless it is the last that may. -/
inductive Leb128 : Nat → List Bool → Nat → Prop
  | full : Leb128 0 [] 0
  | last {left low : Nat} (small : low < 128) : Leb128 (left + 1) (toBits 8 low) low
  | more {left low high : Nat} {bits : List Bool} (small : low < 128)
      (rest : Leb128 left bits high) :
      Leb128 (left + 1) (toBits 8 (128 + low) ++ bits) (low + 128 * high)

/-- The code of a size. -/
inductive SizeCode : List Bool → UInt64 → Prop
  | groups {bits : List Bool} {number : Nat} (code : Leb128 8 bits number) :
      SizeCode bits (UInt64.ofNat number)

inductive ExtensionCode : List Bool → ObuExtensionHeader → Prop
  | fields {temporal spatial reserved : Nat} (smallTemporal : temporal < 8)
      (smallSpatial : spatial < 4) (smallReserved : reserved < 8) :
      ExtensionCode (toBits 3 temporal ++ (toBits 2 spatial ++ toBits 3 reserved))
        ⟨UInt8.ofNat temporal, UInt8.ofNat spatial⟩

inductive HeaderCode : List Bool → ObuHeader → Prop
  | fields {type : Nat} {reserved : Bool} {extension groups : List Bool}
      {extensionHeader : Option ObuExtensionHeader} {size : Option UInt64} (small : type < 16)
      (extensionCode : Optional ExtensionCode extension extensionHeader)
      (sizeCode : Optional SizeCode groups size) :
      HeaderCode ([false] ++ (toBits 4 type ++ ([extensionHeader.isSome] ++ ([size.isSome] ++
        ([reserved] ++ (extension ++ groups))))))
        ⟨.fromU8 (UInt8.ofNat type), size, extensionHeader⟩

/-! ## Groups of bits -/

theorem Leb128.whole {left number : Nat} {bits : List Bool} (code : Leb128 left bits number) :
    8 ∣ bits.length := by
  induction code with
  | full => exact Nat.dvd_zero 8
  | last small => rw [length_toBits]
  | more small rest ih =>
      rw [List.length_append, length_toBits]
      exact Nat.dvd_add (Nat.dvd_refl 8) ih

theorem and_low {number : Nat} (small : number < 256) :
    UInt64.ofNat number &&& 0x7f = UInt64.ofNat (number % 128) := by
  have mask : (0x7f : UInt64).toNat = 2 ^ 7 - 1 := rfl
  rw [← UInt64.toNat_inj, UInt64.toNat_and, mask, Nat.and_two_pow_sub_one_eq_mod,
    UInt64.toNat_ofNat_of_lt' (by change number < 2 ^ 64; omega),
    UInt64.toNat_ofNat_of_lt' (by change number % 128 < 2 ^ 64; omega)]

/-- The top bit of a byte is set from 128 on. -/
theorem and_top {number : Nat} (small : number < 256) :
    UInt64.ofNat number &&& 0x80 = 0 ↔ number < 128 := by
  have top : (0x80 : UInt64).toNat = 2 ^ 7 := rfl
  rw [← UInt64.toNat_inj, UInt64.toNat_and, top, Nat.and_two_pow,
    UInt64.toNat_ofNat_of_lt' (by change number < 2 ^ 64; omega), Nat.testBit_eq_decide_div_mod_eq]
  change (decide (number / 128 % 2 = 1)).toNat * 128 = 0 ↔ number < 128
  by_cases set : number / 128 % 2 = 1
  · rw [decide_eq_true set]
    exact iff_of_false (by decide) (by omega)
  · rw [decide_eq_false set]
    exact iff_of_true rfl (by omega)

/-- A group is put above the ones before it. -/
theorem or_group {low i result : Nat} (few : i < 8) (below : result < 2 ^ (7 * i))
    (small : low < 128) :
    UInt64.ofNat result ||| (UInt64.ofNat low <<< UInt64.ofNat (i * 7)) =
      UInt64.ofNat (result + 2 ^ (7 * i) * low) := by
  have power : 2 ^ (7 * i) ≤ 2 ^ 49 := Nat.pow_le_pow_right (by decide) (by omega)
  have room : 2 ^ (7 * i) * low ≤ 2 ^ 49 * 127 := Nat.mul_le_mul power (by omega)
  have width : (UInt64.ofNat (i * 7)).toNat % 64 = 7 * i := by
    rw [UInt64.toNat_ofNat_of_lt' (by change i * 7 < 2 ^ 64; omega)]
    omega
  rw [← UInt64.toNat_inj, UInt64.toNat_or, UInt64.toNat_shiftLeft, width, Nat.shiftLeft_eq,
    UInt64.toNat_ofNat_of_lt' (by change result < 2 ^ 64; omega),
    UInt64.toNat_ofNat_of_lt' (by change low < 2 ^ 64; omega),
    UInt64.toNat_ofNat_of_lt' (by change result + 2 ^ (7 * i) * low < 2 ^ 64; omega),
    Nat.mul_comm low, Nat.mod_eq_of_lt (by omega), Nat.or_comm, ← Nat.two_pow_add_eq_or_of_lt below,
    Nat.add_comm]

/-- A group is put in front of the groups that follow it. -/
theorem group_cons (result low high i : Nat) :
    result + 2 ^ (7 * i) * low + 2 ^ (7 * (i + 1)) * high =
      result + 2 ^ (7 * i) * (low + 128 * high) := by
  rw [Nat.mul_succ, Nat.pow_add]
  ring

theorem toBits_inj {width number other : Nat} (small : number < 2 ^ width)
    (smallOther : other < 2 ^ width) (same : toBits width number = toBits width other) :
    number = other := by
  have read := congrArg ofBits same
  rw [ofBits_toBits, ofBits_toBits, Nat.mod_eq_of_lt small, Nat.mod_eq_of_lt smallOther] at read
  exact read

/-- The first group says by its top bit if there are others. -/
theorem Leb128.cons_iff {left byte number : Nat} {bits : List Bool} (small : byte < 256) :
    Leb128 (left + 1) (toBits 8 byte ++ bits) number ↔
      byte < 128 ∧ bits = [] ∧ number = byte ∨
        ¬byte < 128 ∧ ∃ high, Leb128 left bits high ∧ number = byte % 128 + 128 * high := by
  constructor
  · intro code
    generalize whole : toBits 8 byte ++ bits = all at code
    cases code with
    | last smallLow =>
        obtain ⟨same, none⟩ := List.append_inj (whole.trans (List.append_nil _).symm)
          (by rw [length_toBits, length_toBits])
        obtain rfl := toBits_inj small (show number < 2 ^ 8 by omega) same
        exact .inl ⟨smallLow, none, rfl⟩
    | @more _ low high rest smallLow code =>
        obtain ⟨same, rfl⟩ := List.append_inj whole (by rw [length_toBits, length_toBits])
        obtain rfl := toBits_inj small (show 128 + low < 2 ^ 8 by omega) same
        exact .inr ⟨by omega, high, code, by omega⟩
  · rintro (⟨low, rfl, rfl⟩ | ⟨top, high, code, rfl⟩)
    · rw [List.append_nil]
      exact .last low
    · have split : byte = 128 + byte % 128 := by omega
      have low : byte % 128 < 128 := by omega
      have code := Leb128.more low code
      rw [← split] at code
      exact code

/-- Every code starts with a group. -/
theorem Leb128.exists_cons {left number : Nat} {bits : List Bool}
    (code : Leb128 (left + 1) bits number) :
    ∃ byte < 256, ∃ rest, bits = toBits 8 byte ++ rest := by
  cases code with
  | last small => exact ⟨number, by omega, [], (List.append_nil _).symm⟩
  | @more _ low _ rest small code => exact ⟨128 + low, by omega, rest, rfl⟩

/-- Behind a group the others follow, if its top bit is set. -/
theorem afterGroup_parses {left i result byte : Nat} {others : UInt64 → BitReader UInt64}
    (few : i < 8) (below : result < 2 ^ (7 * i)) (small : byte < 256)
    (next : ∀ result, result < 2 ^ (7 * (i + 1)) → Parses (others (UInt64.ofNat result))
      fun bits value => ∃ number, Leb128 left bits number ∧
        value = UInt64.ofNat (result + 2 ^ (7 * (i + 1)) * number)) :
    Parses
      (let result := UInt64.ofNat result |||
        ((UInt64.ofNat byte &&& 0x7f) <<< UInt64.ofNat (i * 7))
      if UInt64.ofNat byte &&& 0x80 = 0 then return result else others result)
      fun bits value => ∃ number, Leb128 (left + 1) (toBits 8 byte ++ bits) number ∧
        value = UInt64.ofNat (result + 2 ^ (7 * i) * number) := by
  have low : byte % 128 < 128 := Nat.mod_lt _ (by decide)
  rw [and_low small, or_group few below low]
  have inside : result + 2 ^ (7 * i) * (byte % 128) < 2 ^ (7 * (i + 1)) := by
    have room : 2 ^ (7 * i) * (byte % 128) ≤ 2 ^ (7 * i) * 127 := Nat.mul_le_mul_left _ (by omega)
    rw [Nat.mul_succ, Nat.pow_add]
    omega
  refine (Parses.ite (Parses.pure _) (next _ inside)).congr fun bits value => ?_
  rw [and_top small]
  constructor
  · rintro (⟨short, rfl, rfl⟩ | ⟨long, high, code, rfl⟩)
    · refine ⟨byte, (Leb128.cons_iff small).mpr (.inl ⟨short, rfl, rfl⟩), ?_⟩
      rw [Nat.mod_eq_of_lt short]
    · refine ⟨_, (Leb128.cons_iff small).mpr (.inr ⟨long, high, code, rfl⟩), ?_⟩
      rw [group_cons]
  · rintro ⟨number, code, rfl⟩
    rcases (Leb128.cons_iff small).mp code with ⟨short, rfl, rfl⟩ | ⟨long, high, more, rfl⟩
    · refine .inl ⟨short, rfl, ?_⟩
      rw [Nat.mod_eq_of_lt short]
    · refine .inr ⟨long, high, more, ?_⟩
      rw [group_cons]

theorem readGroups_parses (left i result : Nat) (few : i + left ≤ 8) (below : result < 2 ^ (7 * i)) :
    Parses (readGroups i left (UInt64.ofNat result)) fun bits value =>
      ∃ number, Leb128 left bits number ∧ value = UInt64.ofNat (result + 2 ^ (7 * i) * number) := by
  induction left generalizing i result with
  | zero =>
      refine (Parses.pure _).congr fun bits value => ?_
      constructor
      · rintro ⟨rfl, rfl⟩
        exact ⟨0, .full, rfl⟩
      · rintro ⟨_, ⟨⟩, rfl⟩
        exact ⟨rfl, rfl⟩
  | succ left ih =>
      have after (front : List Bool) (byte : UInt64)
          (spelled : ∃ number < 2 ^ 8, front = toBits 8 number ∧ byte = UInt64.ofNat number) := by
        have small : byte.toNat < 256 := by
          obtain ⟨number, small, _, rfl⟩ := spelled
          rw [UInt64.toNat_ofNat_of_lt' (by change number < 2 ^ 64; omega)]
          exact small
        have parses := @afterGroup_parses left i result byte.toNat (readGroups (i + 1) left)
          (by omega) below small fun result inside => ih (i + 1) result (by omega) inside
        rw [UInt64.ofNat_toNat] at parses
        exact parses
      refine ((@Parses.readBits 8 (by decide)).bindSpelled after).congr
        fun bits value => ?_
      constructor
      · rintro ⟨_, _, rest, rfl, ⟨byte, small, rfl, rfl⟩, number, code, rfl⟩
        rw [UInt64.toNat_ofNat_of_lt' (by change byte < 2 ^ 64; omega)] at code
        exact ⟨number, code, rfl⟩
      · rintro ⟨number, code, rfl⟩
        obtain ⟨byte, small, rest, rfl⟩ := code.exists_cons
        refine ⟨_, _, rest, rfl, ⟨byte, small, rfl, rfl⟩, number, ?_, rfl⟩
        rw [UInt64.toNat_ofNat_of_lt' (by change byte < 2 ^ 64; omega)]
        exact code

theorem readLeb128_parses : Parses readLeb128 SizeCode := by
  refine (readGroups_parses 8 0 0 (by decide) (by decide)).congr fun bits value => ?_
  constructor
  · rintro ⟨number, code, rfl⟩
    rw [Nat.zero_add, Nat.mul_zero, Nat.pow_zero, Nat.one_mul]
    exact .groups code
  · rintro ⟨code⟩
    refine ⟨_, code, ?_⟩
    rw [Nat.zero_add, Nat.mul_zero, Nat.pow_zero, Nat.one_mul]

/-! ## Headers -/

theorem ObuExtensionHeader.read_parses : Parses read ExtensionCode := by
  refine ((@Parses.readBits 3 (by decide)).bind fun temporalId =>
    (@Parses.readBits 2 (by decide)).bind fun spatialId =>
      (@Parses.readBits 3 (by decide)).map fun _ =>
        ObuExtensionHeader.mk temporalId.toUInt8 spatialId.toUInt8).congr fun bits header => ?_
  constructor
  · rintro ⟨_, _, _, rfl, ⟨temporal, smallTemporal, rfl, rfl⟩, _, _, _, rfl,
      ⟨spatial, smallSpatial, rfl, rfl⟩, _, ⟨reserved, smallReserved, rfl, _⟩, rfl⟩
    rw [UInt64.toUInt8_ofNat', UInt64.toUInt8_ofNat']
    exact .fields smallTemporal smallSpatial smallReserved
  · rintro ⟨smallTemporal, smallSpatial, smallReserved⟩
    refine ⟨_, _, _, rfl, ⟨_, smallTemporal, rfl, rfl⟩, _, _, _, rfl, ⟨_, smallSpatial, rfl, rfl⟩, _,
      ⟨_, smallReserved, rfl, rfl⟩, ?_⟩
    rw [UInt64.toUInt8_ofNat', UInt64.toUInt8_ofNat']

theorem ExtensionCode.whole {bits : List Bool} {header : ObuExtensionHeader}
    (code : ExtensionCode bits header) : 8 ∣ bits.length := by
  obtain ⟨_, _, _⟩ := code
  rw [List.length_append, List.length_append, length_toBits, length_toBits, length_toBits]

theorem SizeCode.whole {bits : List Bool} {size : UInt64} (code : SizeCode bits size) :
    8 ∣ bits.length := by
  obtain ⟨groups⟩ := code
  exact groups.whole

theorem whole_of_optional {α : Type} {spells : List Bool → α → Prop} {bits : List Bool}
    {value : Option α} (whole : ∀ bits value, spells bits value → 8 ∣ bits.length)
    (code : Optional spells bits value) : 8 ∣ bits.length := by
  cases code with
  | absent => exact Nat.dvd_zero 8
  | present spelled => exact whole _ _ spelled

/-- A header fills its bytes. -/
theorem HeaderCode.whole {bits : List Bool} {header : ObuHeader} (code : HeaderCode bits header) :
    8 ∣ bits.length := by
  obtain ⟨small, extensionCode, sizeCode⟩ := code
  have extension := whole_of_optional (fun _ _ => ExtensionCode.whole) extensionCode
  have size := whole_of_optional (fun _ _ => SizeCode.whole) sizeCode
  simp only [List.length_append, List.length_cons, List.length_nil, length_toBits]
  omega

namespace ObuHeader

theorem readFields_parses : Parses readFields HeaderCode := by
  refine (Parses.readBit.bind fun forbidden =>
    (Parses.refuse forbidden "obu_forbidden_bit is not 0").bind fun _ =>
      (@Parses.readBits 4 (by decide)).bind fun obuType =>
        Parses.readBit.bind fun extensionFlag => Parses.readBit.bind fun hasSizeField =>
          Parses.readBit.bind fun _ =>
            (Parses.optionally extensionFlag ObuExtensionHeader.read_parses).bind
              fun extensionHeader =>
                (Parses.optionally hasSizeField readLeb128_parses).map fun size =>
                  ObuHeader.mk (.fromU8 obuType.toUInt8) size extensionHeader).congr
      fun bits header => ?_
  constructor
  · rintro ⟨_, forbidden, _, rfl, rfl, _, _, _, rfl, ⟨rfl, rfl⟩, _, _, _, rfl,
      ⟨type, small, rfl, rfl⟩, _, _, _, rfl, rfl, _, _, _, rfl, rfl, _, reserved, _, rfl, rfl,
      extension, extensionHeader, groups, rfl, ⟨extensionCode, rfl⟩, size, ⟨sizeCode, rfl⟩, rfl⟩
    rw [UInt64.toUInt8_ofNat']
    exact .fields small extensionCode sizeCode
  · rintro ⟨small, extensionCode, sizeCode⟩
    refine ⟨_, _, _, rfl, rfl, [], (), _, rfl, ⟨rfl, rfl⟩, _, _, _, rfl, ⟨_, small, rfl, rfl⟩,
      _, _, _, rfl, rfl, _, _, _, rfl, rfl, _, _, _, rfl, rfl, _, _, _, rfl, ⟨extensionCode, rfl⟩,
      _, ⟨sizeCode, rfl⟩, ?_⟩
    rw [UInt64.toUInt8_ofNat']

theorem finish_aligned (header : ObuHeader) {state : BitState} (aligned : isAligned state = true) :
    finish header state = pure header := by
  rw [finish, aligned]
  rfl

/-- Between any bytes, a header is read exactly where the codes of its fields stand: the bit in
front is clear, the extension and the size are there if their flags say so, and the reader stands
behind them.  Headers fill whole bytes, so that the reader is never found inside one. -/
theorem parse_ok_iff_headerCode (before data : Bytes) (header : ObuHeader) (stop : Nat) :
    parse (before ++ data) before.length = .ok (header, stop) ↔
      ∃ bytes rest, data = bytes ++ rest ∧ stop = before.length + bytes.length ∧
        HeaderCode (bytesBits bytes) header := by
  constructor
  · intro done
    obtain ⟨⟨value, state⟩, reached, fields, finished⟩ := Reader.bind_eq_ok_iff.mp done
    obtain ⟨aligned, bytes, rest, cut, place, code⟩ :=
      readFields_parses.runBytes_sound (fun _ _ => HeaderCode.whole) fields
    have done : finish value state (before ++ data) reached = .ok (header, stop) := finished
    rw [finish_aligned value aligned] at done
    cases done
    exact ⟨bytes, rest, cut, place, code⟩
  · rintro ⟨bytes, rest, rfl, rfl, code⟩
    obtain ⟨state, fields, aligned⟩ :=
      readFields_parses.runBytes_complete before rest code
    have done := Reader.bind_ok fields fun read => finish read.1 read.2
    rw [finish_aligned header aligned] at done
    exact done

end ObuHeader

end ScuffleVideo.Av1
