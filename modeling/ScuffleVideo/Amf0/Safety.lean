import ScuffleVideo.Amf0.Recognition

/-!
# Decoding arbitrary input

Every call on a slice ends: the bytes in front of the cursor either spell what is
asked for or fail.  A failure is an error, except where a text declares more
bytes than remain; there the slice is indexed out of range.  The results below
say for each operation that this is the only way it can go wrong.
-/

namespace ScuffleVideo.Amf0

open Wire Wire.Reader Amf0Decoder

/-- The call returns, with a value and the cursor inside the slice or with an
error. -/
def Safe {α : Type} (data : Bytes) (result : Except Halt (α × Nat)) : Prop :=
  (∃ value stop, result = .ok (value, stop) ∧ stop ≤ data.length) ∨
    ∃ reason stop, result = .error (.error reason stop)

section Safety

variable {α : Type} {shortRead : ShortRead} {data : Bytes} {position stop rounds : Nat}
  {reader : Reader Halt α}

theorem safe_of_rejected (ended : EndsIn reader data position (.rejected stop)) :
    Safe data (reader data position) := by
  obtain ⟨halt, failed, shown⟩ := ended
  cases shown
  exact .inr ⟨_, _, failed⟩

theorem not_safe_of_overrun (ended : EndsIn reader data position .overrun) :
    ¬ Safe data (reader data position) := by
  obtain ⟨halt, failed, shown⟩ := ended
  cases shown
  rw [failed]
  rintro (⟨_, _, impossible, _⟩ | ⟨_, _, impossible⟩)
  · cases impossible
  · cases impossible

/-- A call that ends in one way or the other is safe unless it overruns. -/
theorem safe_iff_of_endsIn {ending : Ending} (ended : EndsIn reader data position ending) :
    Safe data (reader data position) ↔ ending ≠ .overrun := by
  cases ending with
  | rejected stop => exact ⟨fun _ => nofun, fun _ => safe_of_rejected ended⟩
  | overrun => exact ⟨fun safe => absurd safe (not_safe_of_overrun ended), fun no => absurd rfl no⟩

/-- What holds of the result of an operation that is described by two relations:
it is safe unless the failing one ends in an overrun. -/
theorem safe_iff {Good : α → Nat → Prop} {Bad : Ending → Prop}
    (total : (∃ value stop, Good value stop) ∨ ∃ ending, Bad ending)
    (good : ∀ value stop, Good value stop →
      reader data position = .ok (value, stop) ∧ stop ≤ data.length)
    (bad : ∀ ending, Bad ending → EndsIn reader data position ending) :
    Safe data (reader data position) ↔ ¬ Bad .overrun := by
  rcases total with ⟨value, stop, spelled⟩ | ⟨ending, failed⟩
  · obtain ⟨read, within⟩ := good value stop spelled
    constructor
    · intro _ overrun
      exact (bad .overrun overrun).not_ok read
    · intro _
      exact .inl ⟨value, stop, read, within⟩
  · rw [safe_iff_of_endsIn (bad ending failed)]
    constructor
    · intro other overrun
      exact other ((bad ending failed).unique (bad .overrun overrun))
    · rintro none rfl
      exact none failed

theorem decode_safe_iff (within : position ≤ data.length) :
    Safe data (decode shortRead data position) ↔ ¬ Fails shortRead data .value position .overrun :=
  safe_iff (settled shortRead data .value position).value_cases
    (fun _ _ spelled => ⟨decode_of_spells spelled within, (spelled.bounds within).2⟩)
    fun _ failed => decode_of_fails failed within

theorem decodeAll_safe_iff (within : position ≤ data.length) :
    Safe data (decodeAll shortRead data position) ↔ ¬ SequenceFails shortRead data position .overrun := by
  refine @safe_iff _ data position _ (fun values stop => Sequence data values position ∧
    stop = data.length) _ ?_ ?_ fun _ failed => decodeAll_of_fails failed within
  · rcases sequence_total shortRead within with ⟨values, sequence⟩ | failed
    · exact .inl ⟨values, _, sequence, rfl⟩
    · exact .inr failed
  · rintro values stop ⟨sequence, rfl⟩
    exact ⟨decodeAll_of_sequence sequence within, Nat.le_refl _⟩

theorem decodeWithType_safe_iff (marker : Amf0Marker) (within : position ≤ data.length) :
    Safe data (decodeWithType shortRead marker data position) ↔
      ¬ (StandsAt data position [marker.byte] ∧
        Fails shortRead data .value position .overrun) := by
  by_cases remaining : position < data.length
  · obtain ⟨byte, stands⟩ := StandsAt.exists_byte remaining
    by_cases same : byte = marker.byte
    · subst same
      rw [decodeWithType_of_marker stands, decode_safe_iff within]
      exact ⟨fun safe both => safe both.2, fun safe overrun => safe ⟨stands, overrun⟩⟩
    · refine ⟨fun _ both => same ?_, fun _ => safe_of_rejected (decodeWithType_of_other stands same)⟩
      exact (List.cons.inj (stands.unique both.1 rfl)).1
  · refine ⟨fun _ both => ?_, fun _ =>
      safe_of_rejected (decodeWithType_of_end (Nat.le_of_not_lt remaining))⟩
    have present := both.1.le_length
    simp only [List.length_singleton] at present
    omega

/-! ## The iterator -/

theorem next_of_remaining (remaining : position < data.length) :
    next shortRead data position = some (decode shortRead data position) :=
  if_neg fun ended => by
    have reached := isEmpty_iff.mp ended
    omega

theorem iterateWithin_end (rounds : Nat) : iterateWithin shortRead rounds data data.length = .ok [] := by
  have ended := isEmpty_iff.mpr (Eq.refl data.length)
  cases rounds with
  | zero => exact if_pos ended
  | succ rounds =>
      rw [iterateWithin, next, if_pos ended]

theorem iterateWithin_accepted {value : Amf0Value}
    (spelled : Spells data (.value value) position stop) (within : position ≤ data.length) :
    iterateWithin shortRead (rounds + 1) data position =
      (do return .ok value :: (← iterateWithin shortRead rounds data stop)) := by
  rw [iterateWithin, next_of_remaining (spelled.lt within), decode_of_spells spelled within]

theorem iterateWithin_rejected (remaining : position < data.length)
    (failed : Fails shortRead data .value position (.rejected stop)) :
    ∃ reason, iterateWithin shortRead (rounds + 1) data position =
      (do return .error reason :: (← iterateWithin shortRead rounds data stop)) := by
  obtain ⟨halt, ended, shown⟩ := decode_of_fails failed (Nat.le_of_lt remaining)
  cases shown with
  | @rejected _ reason =>
      refine ⟨reason, ?_⟩
      rw [iterateWithin, next_of_remaining remaining, ended]

theorem iterateWithin_overrun (remaining : position < data.length)
    (failed : Fails shortRead data .value position .overrun) :
    iterateWithin shortRead (rounds + 1) data position = .error .panic := by
  obtain ⟨halt, ended, shown⟩ := decode_of_fails failed (Nat.le_of_lt remaining)
  cases shown
  rw [iterateWithin, next_of_remaining remaining, ended]

theorem iterateWithin_of_overruns (overruns : IterationOverruns shortRead data position)
    (within : position ≤ data.length) (enough : data.length ≤ position + rounds) :
    iterateWithin shortRead rounds data position = .error .panic := by
  induction overruns generalizing rounds with
  | here remaining failed =>
      obtain ⟨rounds, rfl⟩ : ∃ fewer, rounds = fewer + 1 := ⟨rounds - 1, by omega⟩
      exact iterateWithin_overrun remaining failed
  | accepted spelled later ih =>
      have bounds := spelled.bounds within
      simp only [Phrase.shape, Shape.least] at bounds
      obtain ⟨rounds, rfl⟩ : ∃ fewer, rounds = fewer + 1 := ⟨rounds - 1, by omega⟩
      rw [iterateWithin_accepted spelled within, @ih rounds bounds.2 (by omega)]
      rfl
  | rejected remaining failed later ih =>
      have bounds := failed.within within
      simp only [Ending.Within, Shape.least] at bounds
      obtain ⟨rounds, rfl⟩ : ∃ fewer, rounds = fewer + 1 := ⟨rounds - 1, by omega⟩
      obtain ⟨reason, step⟩ := @iterateWithin_rejected shortRead _ _ _ rounds remaining failed
      rw [step, @ih rounds bounds.2 (by omega)]
      rfl

/-- The iterator is exhausted after at most one call for each byte, unless it
comes to an overrun. -/
theorem iterateWithin_of_not_overruns (none : ¬ IterationOverruns shortRead data position)
    (within : position ≤ data.length) (enough : data.length ≤ position + rounds) :
    ∃ items, iterateWithin shortRead rounds data position = .ok items := by
  induction rounds generalizing position with
  | zero =>
      obtain rfl : position = data.length := by omega
      exact ⟨[], iterateWithin_end 0⟩
  | succ rounds ih =>
      by_cases ended : position = data.length
      · subst ended
        exact ⟨[], iterateWithin_end _⟩
      · have remaining : position < data.length := by omega
        rcases (settled shortRead data .value position).value_cases with
          ⟨value, middle, spelled⟩ | ⟨ending, failed⟩
        · have bounds := spelled.bounds within
          simp only [Phrase.shape, Shape.least] at bounds
          obtain ⟨items, done⟩ := ih (fun later => none (.accepted spelled later)) bounds.2 (by omega)
          exact ⟨_, by rw [iterateWithin_accepted spelled within, done]; rfl⟩
        · cases ending with
          | overrun => exact absurd (.here remaining failed) none
          | rejected middle =>
              have bounds := failed.within within
              simp only [Ending.Within, Shape.least] at bounds
              obtain ⟨items, done⟩ :=
                ih (fun later => none (.rejected remaining failed later)) bounds.2 (by omega)
              obtain ⟨reason, step⟩ := @iterateWithin_rejected shortRead _ _ _ rounds remaining failed
              exact ⟨_, by rw [step, done]; rfl⟩

theorem iterate_ok_iff (within : position ≤ data.length) :
    (∃ items, iterate shortRead data position = .ok items) ↔
      ¬ IterationOverruns shortRead data position := by
  constructor
  · rintro ⟨items, done⟩ overruns
    rw [iterate, iterateWithin_of_overruns overruns within (Nat.le_add_left _ _)] at done
    cases done
  · intro none
    exact iterateWithin_of_not_overruns none within (Nat.le_add_left _ _)

end Safety

/-- From a cursor inside the slice, each operation of the decoder returns a value
or an error exactly when reading does not come to a text that declares more bytes
than remain. -/
theorem decoder_safe_iff (shortRead : ShortRead) (data : Bytes) (position : Nat)
    (within : position ≤ data.length) :
    (Safe data (decode shortRead data position) ↔
        ¬ Fails shortRead data .value position .overrun) ∧
      (Safe data (decodeAll shortRead data position) ↔
        ¬ SequenceFails shortRead data position .overrun) ∧
      (∀ marker, Safe data (decodeWithType shortRead marker data position) ↔
        ¬ (StandsAt data position [marker.byte] ∧
          Fails shortRead data .value position .overrun)) ∧
      ((∃ items, iterate shortRead data position = .ok items) ↔
        ¬ IterationOverruns shortRead data position) :=
  ⟨decode_safe_iff within, decodeAll_safe_iff within,
    fun marker => decodeWithType_safe_iff marker within, iterate_ok_iff within⟩

/-- A string that declares five bytes where none are left. -/
def shortString : Bytes := [0x02, 0x00, 0x05]

theorem shortString_overruns (shortRead : ShortRead) :
    Fails shortRead shortString .value 0 .overrun :=
  .string ⟨[], [0x00, 0x05], rfl, rfl⟩
    (@TextFails.overrun shortRead shortString 2 1 5 (by decide) ⟨[0x02], [], rfl, rfl⟩ (by decide))

theorem decoder_safe_iff_shortString :
    0 ≤ shortString.length ∧ ¬ Safe shortString (decode .stays shortString 0) :=
  ⟨by decide, fun safe =>
    (decoder_safe_iff .stays shortString 0 (by decide)).1.mp safe (shortString_overruns .stays)⟩

/-- The string panics in every operation. -/
theorem shortString_panics :
    decode .stays shortString 0 = .error .panic ∧ decodeAll .stays shortString 0 = .error .panic ∧
      decodeWithType .stays .string shortString 0 = .error .panic ∧
      iterate .stays shortString 0 = .error .panic :=
  ⟨rfl, rfl, rfl, rfl⟩

end ScuffleVideo.Amf0
