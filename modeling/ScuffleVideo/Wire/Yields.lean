import ScuffleVideo.Wire.Text

/-!
# What every value of a reader has

A reader yields a property if every value that it returns has it, from whatever
buffer and position.  The rules follow the combinators: of a sequence the last
reader decides, and it may use what the earlier ones yield.
-/

namespace ScuffleVideo.Wire.Reader

variable {ε α β : Type}

/-- Every value that the reader returns has the property. -/
def Yields (reader : Reader ε α) (holds : α → Prop) : Prop :=
  ∀ (buffer : Bytes) (position stop : Nat) (value : α),
    reader buffer position = .ok (value, stop) → holds value

namespace Yields

variable {holds : α → Prop} {more : β → Prop}

theorem pure {value : α} (held : holds value) : Yields (pure value : Reader ε α) holds := by
  intro buffer position stop result read
  cases read
  exact held

theorem any (reader : Reader ε α) : Yields reader fun _ => True := fun _ _ _ _ _ => trivial

theorem fail (fault : ε) : Yields (Reader.fail fault : Reader ε α) holds := by
  intro buffer position stop result read
  cases read

/-- The reader behind another decides, and may use what the other yields. -/
theorem after {first : Reader ε α} {next : α → Reader ε β} (head : Yields first holds)
    (tail : ∀ value, holds value → Yields (next value) more) :
    Yields (first >>= next) more := by
  intro buffer position stop result read
  obtain ⟨value, middle, firstRead, nextRead⟩ := bind_eq_ok_iff.mp read
  exact tail value (head _ _ _ _ firstRead) _ _ _ _ nextRead

theorem bind {first : Reader ε α} {next : α → Reader ε β}
    (tail : ∀ value, Yields (next value) more) : Yields (first >>= next) more :=
  (any first).after fun value _ => tail value

theorem ite {condition : Prop} [Decidable condition] {yes no : Reader ε α}
    (whenYes : condition → Yields yes holds) (whenNo : ¬condition → Yields no holds) :
    Yields (if condition then yes else no) holds := by
  split
  · rename_i met
    exact whenYes met
  · rename_i unmet
    exact whenNo unmet

theorem weaken {stronger : α → Prop} {reader : Reader ε α} (yields : Yields reader stronger)
    (weaker : ∀ value, stronger value → holds value) : Yields reader holds :=
  fun buffer position stop value read => weaker value (yields buffer position stop value read)

theorem optionally {present : Bool} {reader : Reader ε α} (yields : Yields reader holds) :
    Yields (Reader.optionally present reader)
      fun found => ∀ value, found = some value → holds value := by
  refine ite (fun _ => yields.after fun value held => pure ?_) fun _ => pure nofun
  intro other same
  cases same
  exact held

/-- Records are as many as were asked for, and each of them has the property. -/
theorem repeated {reader : Reader ε α} (yields : Yields reader holds) (count : Nat) :
    Yields (Reader.repeated reader count)
      fun values => values.length = count ∧ ∀ value ∈ values, holds value :=
  fun _ _ _ _ read => ⟨length_of_repeated read,
    forall_mem_repeated (fun one => yields _ _ _ _ one) read⟩

theorem parse {reader : Reader ε α} (yields : Yields reader holds) {data : Bytes} {value : α}
    (read : reader.parse data = .ok value) : holds value := by
  obtain ⟨stop, done⟩ := ok_of_parse read
  exact yields _ _ _ _ done

section Text

theorem toNat_ofNat_byte (byte : UInt8) : (Char.ofNat byte.toNat).toNat = byte.toNat := by
  have small := byte.toNat_lt
  have valid : byte.toNat.isValidChar := .inl (by omega)
  unfold Char.ofNat
  rw [dif_pos valid]
  rfl

variable [Starving ε]

theorem untilZero (rounds : Nat) :
    Yields (Reader.untilZero rounds : Reader ε Bytes) fun bytes => 0 ∉ bytes := by
  induction rounds with
  | zero => exact fail _
  | succ rounds ih =>
      refine bind fun byte => ite (fun _ => pure List.not_mem_nil) fun nonzero => ?_
      refine ih.after fun bytes without => pure ?_
      rw [List.mem_cons, not_or]
      exact ⟨fun zero => nonzero zero.symm, without⟩

/-- A text that ends with a zero byte has no zero in it. -/
theorem readTerminated : Yields (Reader.readTerminated : Reader ε String)
    fun text => ∀ char ∈ text.toList, char.toNat ≠ 0 := by
  intro buffer position stop text read
  obtain ⟨bytes, middle, bytesRead, same⟩ := bind_eq_ok_iff.mp read
  cases same
  have without := untilZero _ _ _ _ _ bytesRead
  intro char member zero
  rw [ofByteChars, String.toList_ofList, List.mem_map] at member
  obtain ⟨byte, inside, rfl⟩ := member
  rw [toNat_ofNat_byte] at zero
  rw [show byte = 0 from UInt8.toNat_inj.mp zero] at inside
  exact without inside

end Text

end Yields

end ScuffleVideo.Wire.Reader
