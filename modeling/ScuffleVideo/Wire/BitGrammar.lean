import ScuffleVideo.Wire.ExpGolomb

/-!
# Readers of bits and their grammars

A grammar says which bits spell which value.  A reader parses a grammar if it returns a value
exactly where bits that spell it stand, and stops behind them.  The rules follow the readers:
a sequence spells one value behind the other.
-/

namespace ScuffleVideo.Wire.BitReader

variable {α β : Type} {first : BitReader α} {next : α → BitReader β}

/-- The reader returns nothing that is not spelled where it stands. -/
def Sound (reader : BitReader α) (spells : List Bool → α → Prop) : Prop :=
  ∀ (buffer : Bytes) (position bit : Nat) (state : BitState),
    Standing buffer position state bit → ∀ (value : α) (last : BitState) (stop : Nat),
      reader state buffer position = .ok ((value, last), stop) →
        ∃ bits after, (bytesBits buffer).drop bit = bits ++ after ∧ spells bits value ∧
          Standing buffer stop last (bit + bits.length)

/-- The reader returns a value where bits that spell it stand, and nothing elsewhere. -/
structure Parses (reader : BitReader α) (spells : List Bool → α → Prop) : Prop where
  sound : Sound reader spells
  complete : ∀ bits value, spells bits value → Decodes reader bits value

/-- The grammar of a value that may be left out. -/
inductive Optional (spells : List Bool → α → Prop) : List Bool → Option α → Prop
  | absent : Optional spells [] none
  | present {bits : List Bool} {value : α} (spelled : spells bits value) :
      Optional spells bits (some value)

theorem Standing.startAt (buffer : Bytes) (position : Nat) :
    Standing buffer position ⟨0, 0⟩ (8 * position) where
  inside := Nat.zero_lt_succ 7
  aligned _ := rfl
  begun impossible := absurd rfl impossible

namespace Parses

variable {spells also : List Bool → α → Prop} {spellsNext : α → List Bool → β → Prop}

theorem congr {reader : BitReader α} (parses : Parses reader spells)
    (same : ∀ bits value, spells bits value ↔ also bits value) : Parses reader also where
  sound := by
    intro buffer position bit state standing value last stop done
    obtain ⟨bits, after, cut, spelled, there⟩ := parses.sound _ _ _ _ standing _ _ _ done
    exact ⟨bits, after, cut, (same _ _).mp spelled, there⟩
  complete := fun bits value spelled => parses.complete bits value ((same _ _).mpr spelled)

theorem pure (value : α) : Parses (pure value) fun bits result => bits = [] ∧ result = value where
  sound := by
    rintro buffer position bit state standing _ _ _ ⟨⟩
    exact ⟨[], _, rfl, ⟨rfl, rfl⟩, standing⟩
  complete := by
    rintro _ _ ⟨rfl, rfl⟩
    exact Decodes.pure _

/-- What a sequence reads is one spelling behind the other.  The second reader has to be right
for the values that are spelled. -/
theorem bindSpelled (head : Parses first spells)
    (tail : ∀ bits value, spells bits value → Parses (next value) (spellsNext value)) :
    Parses (first >>= next) fun bits result =>
      ∃ front value rest, bits = front ++ rest ∧ spells front value ∧
        spellsNext value rest result where
  sound := by
    intro buffer position bit state standing result last stop done
    obtain ⟨value, middle, reached, read, more⟩ := sequence_ok_iff.mp done
    obtain ⟨front, after, cut, spelled, there⟩ := head.sound _ _ _ _ standing _ _ _ read
    obtain ⟨rest, final, cutNext, spelledNext, behind⟩ :=
      (tail front value spelled).sound _ _ _ _ there _ _ _ more
    refine ⟨front ++ rest, final, ?_, ⟨front, value, rest, rfl, spelled, spelledNext⟩, ?_⟩
    · rw [← List.drop_drop, cut, List.drop_left] at cutNext
      rw [cut, cutNext, List.append_assoc]
    · rw [List.length_append, ← Nat.add_assoc]
      exact behind
  complete := by
    rintro _ result ⟨front, value, rest, rfl, spelled, spelledNext⟩
    exact (head.complete _ _ spelled).bind
      ((tail front value spelled).complete _ _ spelledNext)

theorem bind (head : Parses first spells) (tail : ∀ value, Parses (next value) (spellsNext value)) :
    Parses (first >>= next) fun bits result =>
      ∃ front value rest, bits = front ++ rest ∧ spells front value ∧
        spellsNext value rest result :=
  head.bindSpelled fun _ value _ => tail value

theorem map (head : Parses first spells) (change : α → β) :
    Parses (do return change (← first)) fun bits result =>
      ∃ value, spells bits value ∧ result = change value := by
  refine (head.bind fun value => pure (change value)).congr fun bits result => ?_
  constructor
  · rintro ⟨front, value, _, rfl, spelled, rfl, rfl⟩
    rw [List.append_nil]
    exact ⟨value, spelled, rfl⟩
  · rintro ⟨value, spelled, rfl⟩
    exact ⟨bits, value, [], (List.append_nil _).symm, spelled, rfl, rfl⟩

theorem fail {failing : BitReader α}
    (failed : ∀ state buffer position, ∃ fault, failing state buffer position = .error fault) :
    Parses failing fun _ _ => False where
  sound := by
    intro buffer position bit state standing value last stop done
    obtain ⟨fault, error⟩ := failed state buffer position
    rw [error] at done
    cases done
  complete := fun _ _ impossible => impossible.elim

/-- A branch spells what it reads if it is taken. -/
theorem ite {condition : Prop} [Decidable condition] {yes no : BitReader α}
    (whenYes : Parses yes spells) (whenNo : Parses no also) :
    Parses (if condition then yes else no) fun bits value =>
      condition ∧ spells bits value ∨ ¬condition ∧ also bits value := by
  split
  · rename_i met
    refine whenYes.congr fun bits value => ?_
    constructor
    · exact fun spelled => .inl ⟨met, spelled⟩
    · rintro (⟨_, spelled⟩ | ⟨unmet, _⟩)
      · exact spelled
      · exact absurd met unmet
  · rename_i unmet
    refine whenNo.congr fun bits value => ?_
    constructor
    · exact fun spelled => .inr ⟨unmet, spelled⟩
    · rintro (⟨met, _⟩ | ⟨_, spelled⟩)
      · exact absurd met unmet
      · exact spelled

theorem refuse (wrong : Bool) (message : String) :
    Parses (refuse wrong message) fun bits _ => bits = [] ∧ wrong = false := by
  cases wrong with
  | true =>
      refine (fail fun _ _ _ => ⟨.invalidData message, rfl⟩).congr fun bits value => ?_
      exact ⟨False.elim, by rintro ⟨_, ⟨⟩⟩⟩
  | false =>
      refine (pure ()).congr fun bits value => and_congr_right fun _ => ?_
      exact iff_of_true rfl rfl

theorem optionally {reader : BitReader α} (present : Bool) (parses : Parses reader spells) :
    Parses (optionally present reader) fun bits value =>
      Optional spells bits value ∧ value.isSome = present := by
  cases present with
  | true =>
      refine (parses.map some).congr fun bits value => ?_
      constructor
      · rintro ⟨value, spelled, rfl⟩
        exact ⟨.present spelled, rfl⟩
      · rintro ⟨⟨⟩ | spelled, there⟩
        · cases there
        · exact ⟨_, spelled, rfl⟩
  | false =>
      refine (pure none).congr fun bits value => ?_
      constructor
      · rintro ⟨rfl, rfl⟩
        exact ⟨.absent, rfl⟩
      · rintro ⟨⟨⟩ | _, there⟩
        · exact ⟨rfl, rfl⟩
        · cases there

theorem ofTakes {reader : BitReader α} {count : Nat} {means : List Bool → α}
    (takes : Takes reader count means) :
    Parses reader fun bits value => bits.length = count ∧ value = means bits where
  sound := by
    intro buffer position bit state standing value last stop done
    obtain ⟨same, enough, there⟩ := takes.of_ok standing done
    have size := length_slice enough
    refine ⟨slice buffer bit count, ((bytesBits buffer).drop bit).drop count, ?_, ⟨size, same⟩, ?_⟩
    · rw [slice, List.take_append_drop]
    · rw [size]
      exact there
  complete := by
    rintro bits _ ⟨size, rfl⟩
    exact Decodes.of_takes takes size

theorem readBit : Parses readBit fun bits value => bits = [value] :=
  (ofTakes Takes.readBit).congr fun bits value => by
    constructor
    · rintro ⟨size, rfl⟩
      obtain ⟨bit, rfl⟩ := List.length_eq_one_iff.mp size
      rfl
    · rintro rfl
      exact ⟨rfl, rfl⟩

theorem readBits {count : Nat} (narrow : count ≤ 64) :
    Parses (readBits count) fun bits value =>
      ∃ number < 2 ^ count, bits = toBits count number ∧ value = UInt64.ofNat number :=
  (ofTakes (Takes.readBits count)).congr fun bits value => by
    rw [Nat.min_eq_left narrow]
    constructor
    · rintro ⟨rfl, rfl⟩
      exact ⟨ofBits bits, ofBits_lt bits, (toBits_ofBits bits).symm, rfl⟩
    · rintro ⟨number, small, rfl, rfl⟩
      rw [ofBits_toBits, Nat.mod_eq_of_lt small]
      exact ⟨length_toBits count number, rfl⟩

/-- What the reader returns from the start of a buffer is what the buffer starts with. -/
theorem run_iff {reader : BitReader α} (parses : Parses reader spells) {bytes : Bytes}
    {value : α} :
    (∃ state stop, run reader bytes 0 = .ok ((value, state), stop)) ↔
      ∃ bits rest, bytesBits bytes = bits ++ rest ∧ spells bits value := by
  constructor
  · rintro ⟨state, stop, done⟩
    obtain ⟨bits, rest, cut, spelled, _⟩ :=
      parses.sound _ _ _ _ (Standing.start bytes) _ _ _ done
    exact ⟨bits, rest, cut, spelled⟩
  · rintro ⟨bits, rest, whole, spelled⟩
    obtain ⟨state, stop, done, _⟩ := (parses.complete bits value spelled).run whole
    exact ⟨state, stop, done⟩

section

variable {reader : BitReader α} {before data : Bytes} {value : α} {stop : Nat}

/-- A grammar of whole bytes leaves the reader between two bytes. -/
theorem runBytes_sound (parses : Parses reader spells)
    (whole : ∀ bits value, spells bits value → 8 ∣ bits.length) {state : BitState}
    (done : run reader (before ++ data) before.length = .ok ((value, state), stop)) :
    isAligned state = true ∧ ∃ bytes rest, data = bytes ++ rest ∧
      stop = before.length + bytes.length ∧ spells (bytesBits bytes) value := by
  obtain ⟨bits, rest, cut, spelled, there⟩ :=
    parses.sound _ _ _ _ (Standing.startAt _ _) _ _ _ done
  obtain ⟨count, size⟩ := whole bits value spelled
  have aligned : state.bitPos = 0 := by
    rw [there.bitPos_eq]
    omega
  have place := there.aligned aligned
  rw [← bytesBits_drop, List.drop_left] at cut
  have enough : 8 * count ≤ 8 * data.length := by
    rw [← length_bytesBits, cut, List.length_append]
    omega
  refine ⟨isAligned_iff.mpr aligned, data.take count, data.drop count,
    (List.take_append_drop count data).symm, ?_, ?_⟩
  · rw [List.length_take]
    omega
  · rw [bytesBits_take, cut, ← size, List.take_left]
    exact spelled

theorem runBytes_complete (parses : Parses reader spells) (before rest : Bytes) {bytes : Bytes}
    (spelled : spells (bytesBits bytes) value) :
    ∃ state, run reader (before ++ (bytes ++ rest)) before.length =
      .ok ((value, state), before.length + bytes.length) ∧ isAligned state = true := by
  have start := Standing.startAt (before ++ (bytes ++ rest)) before.length
  rw [← length_bytesBits] at start
  obtain ⟨state, stop, done, there⟩ := parses.complete _ _ spelled (before ++ (bytes ++ rest))
    (bytesBits before) (bytesBits rest) before.length ⟨0, 0⟩
    (by rw [bytesBits_append, bytesBits_append]) start
  rw [length_bytesBits, length_bytesBits] at there
  have aligned : state.bitPos = 0 := by
    rw [there.bitPos_eq]
    omega
  have place := there.aligned aligned
  have same : stop = before.length + bytes.length := by omega
  exact ⟨state, same ▸ done, isAligned_iff.mpr aligned⟩

end

end Parses

end ScuffleVideo.Wire.BitReader
