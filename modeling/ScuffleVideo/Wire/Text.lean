import ScuffleVideo.Wire.Cursor

/-!
# Text on the wire

A text is identified with its UTF-8 bytes.  Some formats read text one byte at a
time and take each byte for a character, which agrees with UTF-8 on ASCII only.
-/

namespace ScuffleVideo.Wire

/-- The bytes of a text. -/
def asBytes (text : String) : Bytes := text.toByteArray.data.toList

/-- The text that bytes spell, when they are UTF-8. -/
def fromUtf8 (bytes : Bytes) : Option String := String.fromUTF8? ⟨bytes.toArray⟩

@[simp]
theorem fromUtf8_asBytes (text : String) : fromUtf8 (asBytes text) = some text := by
  have valid : ByteArray.IsValidUTF8 ⟨(asBytes text).toArray⟩ := text.isValidUTF8
  unfold fromUtf8 String.fromUTF8?
  rw [dif_pos valid]
  rfl

theorem asBytes_eq (text : String) : asBytes text = text.toList.flatMap String.utf8EncodeChar := by
  have encoded := congrArg String.toByteArray (String.ofList_toList (s := text))
  rw [asBytes, ← encoded, String.toByteArray_ofList, List.utf8Encode]
  simp

theorem utf8Size_eq_one_iff (char : Char) : char.utf8Size = 1 ↔ char.toNat < 128 := by
  rw [Char.utf8Size_eq_one_iff, UInt32.le_iff_toNat_le]
  change char.toNat ≤ 127 ↔ _
  omega

/-- A text has a byte for each of its characters exactly when they are all
ASCII, and more bytes otherwise. -/
theorem length_asBytes (text : String) :
    text.toList.length ≤ (asBytes text).length ∧
      ((asBytes text).length = text.toList.length ↔ ∀ char ∈ text.toList, char.toNat < 128) := by
  rw [asBytes_eq]
  induction text.toList with
  | nil => simp
  | cons char chars ih =>
      obtain ⟨enough, exact_iff⟩ := ih
      have positive := char.utf8Size_pos
      rw [List.flatMap_cons, List.length_append, String.length_utf8EncodeChar, List.length_cons,
        List.forall_mem_cons, ← exact_iff, ← utf8Size_eq_one_iff]
      omega

/-- Each byte taken for a character. -/
def ofByteChars (bytes : Bytes) : String :=
  String.ofList (bytes.map fun byte => Char.ofNat byte.toNat)

theorem map_ofNat_toNat {chars : List Char} (ascii : ∀ char ∈ chars, char.toNat < 128) :
    (chars.map fun char => UInt8.ofNat char.toNat).map (fun byte => Char.ofNat byte.toNat) =
      chars := by
  rw [List.map_map]
  conv_rhs => rw [← List.map_id chars]
  refine List.map_congr_left fun char member => ?_
  have small := ascii char member
  change Char.ofNat (UInt8.ofNat char.toNat).toNat = char
  rw [UInt8.toNat_ofNat_of_lt' (show _ < 2 ^ 8 by omega), Char.ofNat_toNat]

theorem ofByteChars_map {text : String} (ascii : ∀ char ∈ text.toList, char.toNat < 128) :
    ofByteChars (text.toList.map fun char => UInt8.ofNat char.toNat) = text := by
  rw [ofByteChars, map_ofNat_toNat ascii, String.ofList_toList]

/-- An ASCII text has a byte for each character. -/
theorem asBytes_of_ascii {text : String} (ascii : ∀ char ∈ text.toList, char.toNat < 128) :
    asBytes text = text.toList.map fun char => UInt8.ofNat char.toNat := by
  rw [asBytes_eq]
  revert ascii
  induction text.toList with
  | nil => exact fun _ => rfl
  | cons char chars ih =>
      intro ascii
      obtain ⟨first, others⟩ := List.forall_mem_cons.mp ascii
      rw [List.flatMap_cons, ih others, List.map_cons,
        String.utf8EncodeChar_eq_singleton ((utf8Size_eq_one_iff char).mpr first)]
      rfl

/-- Taking bytes for characters undoes the encoding of ASCII texts only. -/
theorem ofByteChars_asBytes_iff (text : String) :
    ofByteChars (asBytes text) = text ↔ ∀ char ∈ text.toList, char.toNat < 128 := by
  constructor
  · intro same
    have chars := congrArg (fun text => text.toList.length) same
    rw [ofByteChars, String.toList_ofList, List.length_map] at chars
    exact (length_asBytes text).2.mp chars
  · intro ascii
    rw [asBytes_of_ascii ascii, ofByteChars_map ascii]

/-- Only the character zero has a zero byte in its encoding. -/
theorem eq_zero_of_mem_utf8EncodeChar {char : Char} (member : 0 ∈ String.utf8EncodeChar char) :
    char.toNat = 0 := by
  have nonzero (number : Nat) (low : 0 < number) (high : number < 256) : 0 ≠ UInt8.ofNat number := by
    intro same
    have value := congrArg UInt8.toNat same
    rw [UInt8.toNat_ofNat_of_lt' high, UInt8.toNat_zero] at value
    omega
  by_contra some
  have positive : 0 < char.val.toNat := Nat.pos_of_ne_zero some
  revert member
  rw [imp_false]
  unfold String.utf8EncodeChar
  dsimp only
  split_ifs
  · exact List.not_mem_cons_of_ne_of_not_mem (nonzero _ positive (by omega)) List.not_mem_nil
  all_goals
    simp only [List.mem_cons, List.not_mem_nil, or_false, not_or]
    repeat' constructor
    all_goals exact nonzero _ (by omega) (by omega)

theorem zero_not_mem_asBytes {text : String} (free : ∀ char ∈ text.toList, char.toNat ≠ 0) :
    0 ∉ asBytes text := by
  rw [asBytes_eq, List.mem_flatMap]
  rintro ⟨char, member, zero⟩
  exact free char member (eq_zero_of_mem_utf8EncodeChar zero)

namespace Reader

/-- The bytes up to a zero byte, which is consumed with them.  Each round reads
one byte, so a buffer that has a zero byte has enough rounds. -/
def untilZero {ε : Type} [Starving ε] : Nat → Reader ε Bytes
  | 0 => fail Starving.starved
  | rounds + 1 => do
      let byte ← readU8
      if byte = 0 then return []
      else do
        let bytes ← untilZero rounds
        return byte :: bytes

/-- A text that ends with a zero byte.  Without one the bytes run out. -/
def readTerminated {ε : Type} [Starving ε] : Reader ε String := fun buffer position =>
  (do return ofByteChars (← untilZero (buffer.length + 1))) buffer position

theorem untilZero_of_nonzero {ε : Type} [Starving ε] {bytes : Bytes} (nonzero : 0 ∉ bytes)
    {rounds : Nat} (enough : bytes.length < rounds) :
    Reads (untilZero rounds : Reader ε Bytes) (bytes ++ [0]) bytes := by
  induction bytes generalizing rounds with
  | nil =>
      cases rounds with
      | zero => cases enough
      | succ rounds => exact (Reads.readU8 0).finish (Reads.pure [])
  | cons byte bytes ih =>
      cases rounds with
      | zero => cases enough
      | succ rounds =>
          rw [List.mem_cons, not_or] at nonzero
          have more := ih nonzero.2 (Nat.lt_of_succ_lt_succ enough)
          apply (Reads.readU8 byte).bind
          rw [if_neg fun zero => nonzero.1 zero.symm]
          apply more.finish
          exact Reads.pure (byte :: bytes)

/-- A text is read from its bytes as the characters that these are taken for. -/
theorem readTerminated_reads {ε : Type} [Starving ε] {text : String}
    (free : ∀ char ∈ text.toList, char.toNat ≠ 0) :
    Reads (readTerminated : Reader ε String) (asBytes text ++ [0]) (ofByteChars (asBytes text)) := by
  intro before after
  have enough : (asBytes text).length < (before ++ (asBytes text ++ [0]) ++ after).length + 1 := by
    simp only [List.length_append, List.length_singleton]
    omega
  exact ((untilZero_of_nonzero (zero_not_mem_asBytes free) enough).map ofByteChars) before after

instance Returns.untilZero (rounds : Nat) : Returns (Reader.untilZero rounds : Reader IoFault Bytes) := by
  induction rounds with
  | zero =>
      refine ⟨fun _ _ _ failed => ?_⟩
      cases failed
      rfl
  | succ rounds ih => exact Returns.bind

instance Returns.readTerminated : Returns (Reader.readTerminated : Reader IoFault String) where
  returned buffer position _ failed :=
    Returns.bind.returned buffer position _
      (show (do return ofByteChars (← Reader.untilZero (buffer.length + 1)) : Reader IoFault String)
        buffer position = _ from failed)

end Reader

end ScuffleVideo.Wire
