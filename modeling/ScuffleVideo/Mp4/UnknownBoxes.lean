import ScuffleVideo.Mp4.DynBox

/-!
# Unknown boxes

A box of a type that the reader does not know is kept as its header and its bytes.  It has
a size and a writer of its own.  Beyond 32 bits the size counts the longer header; the
header tells the size without it.
-/

namespace ScuffleVideo.Mp4

open Wire Wire.Reader

/-- The size that the header of a box tells, from its long field when the short one is 1. -/
def storedSize (box : Bytes) : Nat :=
  if ofBytesBE (box.take 4) = 1 then ofBytesBE ((box.drop 8).take 8) else ofBytesBE (box.take 4)

theorem storedSize_boxHeader (name : FourCC) {size : Nat} (size_ne : size ≠ 1) (rest : Bytes) :
    storedSize (boxHeader name size ++ rest) = if u32Max < size then size % 2 ^ 64 else size := by
  unfold boxHeader
  split
  · rename_i large
    have first : ((toBytesBE 4 1 ++ name.bytes ++ toBytesBE 8 size) ++ rest).take 4 =
        toBytesBE 4 1 := by
      rw [List.append_assoc, List.append_assoc, List.take_left' (length_toBytesBE 4 1)]
    have behind : ((toBytesBE 4 1 ++ name.bytes ++ toBytesBE 8 size) ++ rest).drop 8 =
        toBytesBE 8 size ++ rest := by
      rw [List.append_assoc, List.drop_left']
      rw [List.length_append, length_toBytesBE, FourCC.length_bytes]
    rw [storedSize, first, if_pos (show ofBytesBE (toBytesBE 4 1) = 1 from rfl), behind,
      List.take_left' (length_toBytesBE 8 size), ofBytesBE_toBytesBE]
    rfl
  · rename_i small
    have short : size < 2 ^ 32 := by
      unfold u32Max at small
      omega
    have first : ((toBytesBE 4 size ++ name.bytes ++ []) ++ rest).take 4 = toBytesBE 4 size := by
      rw [List.append_assoc, List.append_assoc, List.take_left' (length_toBytesBE 4 size)]
    have field : ofBytesBE (toBytesBE 4 size) = size := by
      rw [ofBytesBE_toBytesBE]
      exact Nat.mod_eq_of_lt short
    rw [storedSize, first, field, if_neg size_ne]

namespace DynBox

/-- The box is written in as many bytes as it measures, its header tells this number, and
reading the bytes in front of others gives the box and stops behind them. -/
def Framed (checks : OverflowChecks) (header : BoxHeader) (data : Bytes) : Prop :=
  ∃ bytes, mux (.unknown header data) = .ok bytes ∧
    bytes.length = size (.unknown header data) ∧ storedSize bytes = size (.unknown header data) ∧
    ∀ suffix, demux checks (bytes ++ suffix) 0 = .ok (.unknown header data, bytes.length)

/-- A short box is written like one of a known type. -/
theorem framed_of_short (checks : OverflowChecks) {header : BoxHeader} {data : Bytes}
    (unknown : BoxKind.ofName header.boxType = none) (short : data.length + 8 ≤ u32Max) :
    Framed checks header data := by
  have sized : boxSize data.length = data.length + 8 := if_neg (Nat.not_lt.mpr short)
  have written : mux (.unknown header data) = .ok (frame header.boxType data) := by
    rw [frame, sized]
    rfl
  have stored : storedSize (frame header.boxType data) = data.length + 8 := by
    rw [frame, sized, storedSize_boxHeader header.boxType (by omega),
      if_neg (Nat.not_lt.mpr short)]
  refine ⟨_, written, length_frame _ _, stored.trans sized.symm, fun suffix => ?_⟩
  have parsed (nested : Reader IoFault DynBox) :
      ofData checks nested ⟨header.boxType⟩ data = .ok (.unknown header data) := by
    unfold ofData
    rw [unknown]
  have room : data.length + 16 < 2 ^ 64 := by
    unfold u32Max at short
    omega
  have read := (demuxWithin_frame checks room (parsed (demuxWithin checks
    (frame header.boxType data ++ suffix).length))) [] suffix
  rw [List.nil_append, List.length_nil, Nat.zero_add] at read
  exact read

/-- The header of a long box tells 8 less than the box measures. -/
theorem not_framed_of_long (checks : OverflowChecks) (header : BoxHeader) {data : Bytes}
    (long : u32Max < data.length + 8) : ¬Framed checks header data := by
  rintro ⟨bytes, written, _, stored, _⟩
  have sized : size (.unknown header data) = data.length + 8 + 8 := if_pos long
  cases written
  rw [storedSize_boxHeader header.boxType (by unfold u32Max at long; omega), if_pos long,
    sized] at stored
  have most := Nat.mod_le (data.length + 8) (2 ^ 64)
  omega

/-- An unknown box is framed like one of a known type exactly when its size fits the short
field. -/
theorem unknown_framed_iff (checks : OverflowChecks) (header : BoxHeader) (data : Bytes)
    (unknown : BoxKind.ofName header.boxType = none) :
    Framed checks header data ↔ data.length + 8 ≤ u32Max := by
  constructor
  · intro framed
    by_contra long
    exact not_framed_of_long checks header (Nat.not_le.mp long) framed
  · exact framed_of_short checks unknown

/-- The header of a box whose content is to be skipped. -/
def freeHeader : BoxHeader := ⟨.ofChars 'f' 'r' 'e' 'e'⟩

theorem free_framed :
    BoxKind.ofName freeHeader.boxType = none ∧ Framed .on freeHeader [1, 2, 3] := by
  have unknown : BoxKind.ofName freeHeader.boxType = none := rfl
  exact ⟨unknown, (unknown_framed_iff .on freeHeader [1, 2, 3] unknown).mpr (by decide)⟩

/-- The shortest content that needs the long size field. -/
theorem long_free_not_framed :
    BoxKind.ofName freeHeader.boxType = none ∧
      ¬Framed .off freeHeader (List.replicate 4294967288 0) := by
  refine ⟨rfl, not_framed_of_long .off freeHeader ?_⟩
  rw [List.length_replicate]
  decide

end DynBox

end ScuffleVideo.Mp4
