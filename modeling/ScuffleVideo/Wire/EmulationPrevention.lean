import Mathlib.Data.List.Basic
import ScuffleVideo.Wire.Cursor

/-!
# Emulation prevention

A unit must not contain two zero bytes in front of a byte up to 3, so the encoder puts a byte 3
behind every two zero bytes that would be followed by such a byte.  The parsers of parameter sets
take these bytes out again with a loop that looks three bytes ahead and stops three bytes before
the end.
-/

namespace ScuffleVideo.Wire

/-! ## Escaping -/

/-- Escape bytes behind a number of zero bytes. -/
def escapeAfter : Nat → Bytes → Bytes
  | _, [] => []
  | zeros, byte :: bytes =>
      if 2 ≤ zeros ∧ byte ≤ 3 then 3 :: byte :: escapeAfter (if byte = 0 then 1 else 0) bytes
      else byte :: escapeAfter (if byte = 0 then zeros + 1 else 0) bytes

/-- The standard escaping of a unit. -/
def escape (bytes : Bytes) : Bytes := escapeAfter 0 bytes

theorem escapeAfter_cons_ne (zeros : Nat) {byte : UInt8} (few : zeros < 2) (nonzero : byte ≠ 0)
    (bytes : Bytes) : escapeAfter zeros (byte :: bytes) = byte :: escape bytes := by
  rw [escapeAfter, if_neg (by omega), if_neg nonzero]
  rfl

theorem escape_cons_ne {byte : UInt8} (nonzero : byte ≠ 0) (bytes : Bytes) :
    escape (byte :: bytes) = byte :: escape bytes :=
  escapeAfter_cons_ne 0 (by decide) nonzero bytes

theorem escape_zero_ne {byte : UInt8} (nonzero : byte ≠ 0) (bytes : Bytes) :
    escape (0 :: byte :: bytes) = 0 :: escape (byte :: bytes) := by
  rw [escape_cons_ne nonzero]
  change 0 :: escapeAfter 1 (byte :: bytes) = _
  rw [escapeAfter_cons_ne 1 (by decide) nonzero]

theorem escape_zeros_le {byte : UInt8} (small : byte ≤ 3) (bytes : Bytes) :
    escape (0 :: 0 :: byte :: bytes) = 0 :: 0 :: 3 :: escape (byte :: bytes) := by
  have again : escape (byte :: bytes) = byte :: escapeAfter (if byte = 0 then 1 else 0) bytes := by
    rw [escape, escapeAfter, if_neg (by omega)]
  rw [again]
  change 0 :: 0 :: escapeAfter 2 (byte :: bytes) = _
  rw [escapeAfter, if_pos ⟨Nat.le_refl 2, small⟩]

theorem escape_zeros_gt {byte : UInt8} (large : ¬byte ≤ 3) (bytes : Bytes) :
    escape (0 :: 0 :: byte :: bytes) = 0 :: escape (0 :: byte :: bytes) := by
  have nonzero : byte ≠ 0 := by
    rintro rfl
    exact large (by decide)
  rw [escape_zero_ne nonzero, escape_cons_ne nonzero]
  change 0 :: 0 :: escapeAfter 2 (byte :: bytes) = _
  rw [escapeAfter, if_neg (fun both => large both.2), if_neg nonzero]
  rfl

/-- The bytes of a unit in the steps in which a scan of the escaped unit takes them. -/
theorem scanInduction {holds : Bytes → Prop} (nil : holds []) (zero : holds [0])
    (zeros : holds [0, 0]) (other : ∀ byte bytes, byte ≠ 0 → holds bytes → holds (byte :: bytes))
    (single : ∀ byte bytes, byte ≠ 0 → holds (byte :: bytes) → holds (0 :: byte :: bytes))
    (escaped : ∀ byte bytes, byte ≤ 3 → holds (byte :: bytes) → holds (0 :: 0 :: byte :: bytes))
    (plain : ∀ byte bytes, ¬byte ≤ 3 → holds (0 :: byte :: bytes) → holds (0 :: 0 :: byte :: bytes))
    (bytes : Bytes) : holds bytes := by
  induction length : bytes.length using Nat.strong_induction_on generalizing bytes with
  | _ length ih =>
      subst length
      match bytes with
      | [] => exact nil
      | first :: rest =>
          by_cases firstZero : first = 0
          · subst firstZero
            match rest with
            | [] => exact zero
            | second :: rest =>
                by_cases secondZero : second = 0
                · subst secondZero
                  match rest with
                  | [] => exact zeros
                  | third :: rest =>
                      by_cases small : third ≤ 3
                      · exact escaped third rest small (ih _ (by simp) _ rfl)
                      · exact plain third rest small (ih _ (by simp) _ rfl)
                · exact single second rest secondZero (ih _ (by simp) _ rfl)
          · exact other first rest firstZero (ih _ (by simp) _ rfl)

theorem length_le_escapeAfter (zeros : Nat) (bytes : Bytes) :
    bytes.length ≤ (escapeAfter zeros bytes).length := by
  induction bytes generalizing zeros with
  | nil => exact Nat.le_refl 0
  | cons byte bytes ih =>
      rw [escapeAfter]
      split
      · have rest := ih (if byte = 0 then 1 else 0)
        rw [List.length_cons, List.length_cons, List.length_cons]
        omega
      · have rest := ih (if byte = 0 then zeros + 1 else 0)
        rw [List.length_cons, List.length_cons]
        omega

/-- The escaping of the first bytes of a unit is the first part of the escaped unit. -/
theorem escapeAfter_append (zeros : Nat) (bytes more : Bytes) :
    ∃ rest, escapeAfter zeros (bytes ++ more) = escapeAfter zeros bytes ++ rest := by
  induction bytes generalizing zeros with
  | nil => exact ⟨escapeAfter zeros more, rfl⟩
  | cons byte bytes ih =>
      rw [List.cons_append, escapeAfter, escapeAfter]
      split
      · obtain ⟨rest, same⟩ := ih (if byte = 0 then 1 else 0)
        exact ⟨rest, by rw [same]; rfl⟩
      · obtain ⟨rest, same⟩ := ih (if byte = 0 then zeros + 1 else 0)
        exact ⟨rest, by rw [same]; rfl⟩

/-! ## Taking the bytes out again -/

/-- The loop from a byte of the unit on.  It goes on while more than three bytes are left. -/
def unescapeFrom : Bytes → Bytes
  | first :: second :: third :: fourth :: rest =>
      if first = 0 ∧ second = 0 ∧ third = 3 then 0 :: 0 :: unescapeFrom (fourth :: rest)
      else first :: unescapeFrom (second :: third :: fourth :: rest)
  | _ => []

/-- The bound of the loop is the length less three, which panics for a shorter unit: without
overflow checks the loop runs out of the unit instead. -/
def unescape (data : Bytes) : Except IoFault Bytes :=
  if data.length < 3 then .error .panic else .ok (unescapeFrom data)

theorem unescapeFrom_short {bytes : Bytes} (short : bytes.length ≤ 3) : unescapeFrom bytes = [] := by
  match bytes, short with
  | [], _ => rfl
  | [_], _ => rfl
  | [_, _], _ => rfl
  | [_, _, _], _ => rfl

theorem unescapeFrom_cons {first : UInt8} {bytes : Bytes} (long : 3 ≤ bytes.length)
    (apart : ∀ rest, bytes = 0 :: 3 :: rest → first ≠ 0) :
    unescapeFrom (first :: bytes) = first :: unescapeFrom bytes := by
  match bytes, long with
  | second :: third :: fourth :: rest, _ =>
      rw [unescapeFrom, if_neg]
      rintro ⟨zero, rfl, rfl⟩
      exact apart _ rfl zero

theorem unescapeFrom_escape {bytes : Bytes} (nonempty : bytes ≠ []) :
    unescapeFrom (0 :: 0 :: 3 :: bytes) = 0 :: 0 :: unescapeFrom bytes := by
  match bytes, nonempty with
  | fourth :: rest, _ => rw [unescapeFrom, if_pos ⟨rfl, rfl, rfl⟩]

theorem unescapeFrom_zero {more : Bytes} (long : 3 ≤ more.length) :
    ∃ rest, unescapeFrom (0 :: more) = 0 :: rest := by
  by_cases last : ∃ rest, more = 0 :: 3 :: rest
  · obtain ⟨rest, rfl⟩ := last
    have nonempty : rest ≠ [] := by
      rintro rfl
      exact absurd long (by decide)
    exact ⟨_, unescapeFrom_escape nonempty⟩
  · exact ⟨_, unescapeFrom_cons long fun rest same => absurd ⟨rest, same⟩ last⟩

/-- A unit that has three more bytes behind it is taken whole. -/
theorem unescapeFrom_append {more : Bytes} (long : 3 ≤ more.length) (bytes : Bytes) :
    ∃ rest, unescapeFrom (escape bytes ++ more) = bytes ++ rest := by
  induction bytes using scanInduction with
  | nil => exact ⟨_, rfl⟩
  | zero => exact unescapeFrom_zero long
  | zeros =>
      change ∃ rest, unescapeFrom (0 :: 0 :: more) = _
      by_cases last : ∃ rest, more = 3 :: rest
      · obtain ⟨rest, rfl⟩ := last
        have nonempty : rest ≠ [] := by
          rintro rfl
          exact absurd long (by decide)
        exact ⟨_, unescapeFrom_escape nonempty⟩
      · obtain ⟨rest, same⟩ := unescapeFrom_zero long
        have first : unescapeFrom (0 :: 0 :: more) = 0 :: unescapeFrom (0 :: more) :=
          unescapeFrom_cons (Nat.le_succ_of_le long) fun rest same =>
            absurd ⟨rest, List.tail_eq_of_cons_eq same⟩ last
        exact ⟨rest, by rw [first, same]; rfl⟩
  | other byte bytes nonzero ih =>
      obtain ⟨rest, same⟩ := ih
      refine ⟨rest, ?_⟩
      rw [escape_cons_ne nonzero, List.cons_append, unescapeFrom_cons
        (by rw [List.length_append]; omega) (fun _ _ => nonzero), same]
      rfl
  | single byte bytes nonzero ih =>
      obtain ⟨rest, same⟩ := ih
      refine ⟨rest, ?_⟩
      rw [escape_zero_ne nonzero, List.cons_append, unescapeFrom_cons
        (by rw [List.length_append]; omega), same]
      · rfl
      · intro after zero
        rw [escape_cons_ne nonzero] at zero
        exact absurd (List.head_eq_of_cons_eq zero) nonzero
  | escaped byte bytes small ih =>
      obtain ⟨rest, same⟩ := ih
      refine ⟨rest, ?_⟩
      rw [escape_zeros_le small]
      change unescapeFrom (0 :: 0 :: 3 :: (escape (byte :: bytes) ++ more)) = _
      rw [unescapeFrom_escape, same]
      · rfl
      · intro empty
        have length := congrArg List.length empty
        rw [List.length_append, List.length_nil] at length
        omega
  | plain byte bytes large ih =>
      obtain ⟨rest, same⟩ := ih
      have nonzero : byte ≠ 0 := by
        rintro rfl
        exact large (by decide)
      refine ⟨rest, ?_⟩
      rw [escape_zeros_gt large, List.cons_append, unescapeFrom_cons
        (by rw [List.length_append]; omega), same]
      · rfl
      · intro after zero
        rw [escape_zero_ne nonzero, escape_cons_ne nonzero] at zero
        have third : byte = 3 := List.head_eq_of_cons_eq (List.tail_eq_of_cons_eq zero)
        exact absurd (third ▸ UInt8.le_refl 3) large

/-- The first bytes of a unit are found again, if three bytes are left behind their escaping. -/
theorem unescape_take {unit : Bytes} {count : Nat}
    (room : (escape (unit.take count)).length + 3 ≤ (escape unit).length) :
    ∃ rest, unescape (escape unit) = .ok (unit.take count ++ rest) := by
  obtain ⟨more, split⟩ := escapeAfter_append 0 (unit.take count) (unit.drop count)
  rw [List.take_append_drop] at split
  change escape unit = escape (unit.take count) ++ more at split
  have long : 3 ≤ more.length := by
    rw [split, List.length_append] at room
    omega
  obtain ⟨rest, same⟩ := unescapeFrom_append long (unit.take count)
  refine ⟨rest, ?_⟩
  unfold unescape
  rw [if_neg (by omega), split, same]

/-- At least one byte is lost at the end. -/
theorem length_unescapeFrom_lt (bytes : Bytes) :
    (unescapeFrom (escape bytes)).length ≤ bytes.length - 1 := by
  have short {escaped : Bytes} (few : escaped.length ≤ 3) {bound : Nat} :
      (unescapeFrom escaped).length ≤ bound := by
    rw [unescapeFrom_short few]
    exact Nat.zero_le _
  induction bytes using scanInduction with
  | nil => exact short (by decide)
  | zero => exact short (by decide)
  | zeros => exact short (by decide)
  | other byte bytes nonzero ih =>
      rw [escape_cons_ne nonzero]
      by_cases few : (escape bytes).length < 3
      · exact short (by rw [List.length_cons]; omega)
      · rw [unescapeFrom_cons (Nat.not_lt.mp few) fun _ _ => nonzero, List.length_cons,
          List.length_cons]
        have some : bytes ≠ [] := by
          rintro rfl
          exact few (by decide)
        have positive := List.length_pos_iff.mpr some
        omega
  | single byte bytes nonzero ih =>
      rw [escape_zero_ne nonzero]
      by_cases few : (escape (byte :: bytes)).length < 3
      · exact short (by rw [List.length_cons]; omega)
      · rw [unescapeFrom_cons (Nat.not_lt.mp few), List.length_cons, List.length_cons]
        · rw [List.length_cons] at ih ⊢
          omega
        · intro after zero
          rw [escape_cons_ne nonzero] at zero
          exact absurd (List.head_eq_of_cons_eq zero) nonzero
  | escaped byte bytes small ih =>
      have some : escape (byte :: bytes) ≠ [] := by
        intro empty
        have length := length_le_escapeAfter 0 (byte :: bytes)
        rw [show escapeAfter 0 (byte :: bytes) = [] from empty] at length
        exact absurd length (Nat.not_succ_le_zero _)
      rw [escape_zeros_le small, unescapeFrom_escape some]
      simp only [List.length_cons] at ih ⊢
      omega
  | plain byte bytes large ih =>
      have nonzero : byte ≠ 0 := by
        rintro rfl
        exact large (by decide)
      rw [escape_zeros_gt large]
      by_cases few : (escape (0 :: byte :: bytes)).length < 3
      · exact short (by rw [List.length_cons]; omega)
      · rw [unescapeFrom_cons (Nat.not_lt.mp few), List.length_cons]
        · simp only [List.length_cons] at ih ⊢
          omega
        · intro after zero
          rw [escape_zero_ne nonzero, escape_cons_ne nonzero] at zero
          have third : byte = 3 := List.head_eq_of_cons_eq (List.tail_eq_of_cons_eq zero)
          exact absurd (third ▸ UInt8.le_refl 3) large

/-- No unit comes back from its escaping. -/
theorem unescape_ne (bytes : Bytes) : unescape (escape bytes) ≠ .ok bytes := by
  intro same
  unfold unescape at same
  split at same
  · cases same
  · rename_i long
    have whole : unescapeFrom (escape bytes) = bytes := Except.ok.inj same
    have fewer := length_unescapeFrom_lt bytes
    rw [whole] at fewer
    have empty : bytes = [] := List.eq_nil_of_length_eq_zero (by omega)
    subst empty
    exact long (by decide)

end ScuffleVideo.Wire
