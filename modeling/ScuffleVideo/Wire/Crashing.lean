import ScuffleVideo.Wire.Cursor

/-!
# Readers that crash

A reader crashes on a buffer if it neither returns a value nor an error.  A sequence of
readers crashes where its first part does, or behind that part; a loop crashes at a record
that it reaches over records that were read.
-/

namespace ScuffleVideo.Wire

/-- The computation panics or does not end. -/
def Crashes {α : Type} (result : Except IoFault α) : Prop :=
  ∃ fault, result = .error fault ∧ fault.isReturned = false

variable {α β : Type}

theorem not_crashes_iff {result : Except IoFault α} :
    ¬Crashes result ↔ ∀ fault, result = .error fault → fault.isReturned = true := by
  constructor
  · intro sound fault failed
    by_contra crashed
    exact sound ⟨fault, failed, Bool.not_eq_true _ ▸ crashed⟩
  · rintro all ⟨fault, failed, crashed⟩
    rw [all fault failed] at crashed
    cases crashed

theorem not_crashes_ok (value : α) : ¬Crashes (.ok value : Except IoFault α) := by
  rintro ⟨_, impossible, _⟩
  cases impossible

theorem crashes_sequence {first : Except IoFault α} {next : α → Except IoFault β} :
    Crashes (first >>= next) ↔ Crashes first ∨ ∃ value, first = .ok value ∧ Crashes (next value) := by
  cases first with
  | error fault =>
      constructor
      · rintro ⟨found, same, crashed⟩
        cases same
        exact .inl ⟨fault, rfl, crashed⟩
      · rintro (⟨found, same, crashed⟩ | ⟨_, impossible, _⟩)
        · cases same
          exact ⟨fault, rfl, crashed⟩
        · cases impossible
  | ok value =>
      constructor
      · exact fun crashed => .inr ⟨value, rfl, crashed⟩
      · rintro (impossible | ⟨_, same, crashed⟩)
        · exact absurd impossible (not_crashes_ok value)
        · cases same
          exact crashed

theorem crashes_map {first : Except IoFault α} (change : α → β) :
    Crashes (do return change (← first)) ↔ Crashes first := by
  rw [crashes_sequence]
  constructor
  · rintro (crashed | ⟨value, _, impossible⟩)
    · exact crashed
    · exact absurd impossible (not_crashes_ok _)
  · exact .inl

namespace Reader

variable {reader first second : Reader IoFault α} {buffer : Bytes} {position : Nat}

theorem Returns.not_crashes [all : Returns reader] : ¬Crashes (reader buffer position) :=
  not_crashes_iff.mpr fun fault failed => all.returned buffer position fault failed

theorem crashes_bind {next : α → Reader IoFault β} :
    Crashes ((reader >>= next) buffer position) ↔ Crashes (reader buffer position) ∨
      ∃ value middle, reader buffer position = .ok (value, middle) ∧
        Crashes (next value buffer middle) := by
  rw [bind_apply]
  cases reader buffer position with
  | error fault =>
      constructor
      · rintro ⟨found, same, crashed⟩
        cases same
        exact .inl ⟨fault, rfl, crashed⟩
      · rintro (⟨found, same, crashed⟩ | ⟨_, _, impossible, _⟩)
        · cases same
          exact ⟨fault, rfl, crashed⟩
        · cases impossible
  | ok pair =>
      constructor
      · exact fun crashed => .inr ⟨pair.1, pair.2, rfl, crashed⟩
      · rintro (impossible | ⟨_, _, same, crashed⟩)
        · exact absurd impossible (not_crashes_ok pair)
        · cases same
          exact crashed

/-- Behind a reader that returns. -/
theorem crashes_behind [Returns reader] {next : α → Reader IoFault β} :
    Crashes ((reader >>= next) buffer position) ↔
      ∃ value middle, reader buffer position = .ok (value, middle) ∧
        Crashes (next value buffer middle) := by
  rw [crashes_bind]
  exact or_iff_right Returns.not_crashes

/-- In front of what returns. -/
theorem crashes_before {next : α → Reader IoFault β} [tail : ∀ value, Returns (next value)] :
    Crashes ((reader >>= next) buffer position) ↔ Crashes (reader buffer position) := by
  rw [crashes_bind]
  apply or_iff_left
  rintro ⟨value, middle, _, crashed⟩
  exact Returns.not_crashes crashed

theorem crashes_parse {data : Bytes} : Crashes (reader.parse data) ↔ Crashes (reader data 0) := by
  unfold parse
  cases reader data 0 with
  | ok pair => exact ⟨fun crashed => absurd crashed (not_crashes_ok _),
      fun crashed => absurd crashed (not_crashes_ok _)⟩
  | error fault =>
      constructor
      · rintro ⟨found, same, crashed⟩
        cases same
        exact ⟨fault, rfl, crashed⟩
      · rintro ⟨found, same, crashed⟩
        cases same
        exact ⟨fault, rfl, crashed⟩

theorem crashes_ofExcept {result : Except IoFault α} :
    Crashes (ofExcept result buffer position) ↔ Crashes result := by
  cases result with
  | ok value => exact ⟨fun crashed => absurd crashed (not_crashes_ok _),
      fun crashed => absurd crashed (not_crashes_ok _)⟩
  | error fault =>
      constructor
      · rintro ⟨found, same, crashed⟩
        cases same
        exact ⟨fault, rfl, crashed⟩
      · rintro ⟨found, same, crashed⟩
        cases same
        exact ⟨fault, rfl, crashed⟩

/-! ## Loops -/

/-- Records that are read one after the other. -/
inductive Passes (reader : Reader IoFault α) (buffer : Bytes) : Nat → List α → Nat → Prop where
  | nil {position : Nat} : Passes reader buffer position [] position
  | cons {position middle stop : Nat} {value : α} {values : List α}
      (read : reader buffer position = .ok (value, middle))
      (more : Passes reader buffer middle values stop) :
      Passes reader buffer position (value :: values) stop

/-- Behind the end of the buffer the reader returns an error. -/
def EndsWith (reader : Reader IoFault α) (buffer : Bytes) : Prop :=
  ∀ position, buffer.length ≤ position →
    ∃ fault, reader buffer position = .error fault ∧ fault.isReturned = true

theorem EndsWith.not_crashes (ends : EndsWith reader buffer) (beyond : buffer.length ≤ position) :
    ¬Crashes (reader buffer position) := by
  obtain ⟨fault, failed, returned⟩ := ends position beyond
  rintro ⟨other, same, crashed⟩
  rw [failed] at same
  cases same
  rw [returned] at crashed
  cases crashed

theorem EndsWith.not_ok (ends : EndsWith reader buffer) (beyond : buffer.length ≤ position)
    (result : α × Nat) : reader buffer position ≠ .ok result := by
  obtain ⟨fault, failed, _⟩ := ends position beyond
  rw [failed]
  nofun

theorem EndsWith.not_reached (ends : EndsWith reader buffer) (beyond : buffer.length ≤ position)
    {values : List α} {place : Nat} (passed : Passes reader buffer position values place) :
    ¬Crashes (reader buffer place) := by
  cases passed with
  | nil => exact ends.not_crashes beyond
  | cons read more => exact absurd read (ends.not_ok beyond _)

theorem whileRemaining_beyond (beyond : buffer.length ≤ position) (rounds : Nat) :
    whileRemaining IoFault.unfinished reader rounds buffer position = .ok ([], position) := by
  cases rounds <;> exact if_neg (Nat.not_lt.mpr beyond)

theorem whileRemaining_inside (inside : position < buffer.length) (rounds : Nat) :
    whileRemaining IoFault.unfinished reader (rounds + 1) buffer position =
      (do
        let value ← reader
        let values ← whileRemaining IoFault.unfinished reader rounds
        return value :: values : Reader IoFault (List α)) buffer position :=
  if_pos inside

theorem crashes_whileRemaining (moves : Consumes 1 reader) (ends : EndsWith reader buffer)
    {rounds : Nat} (enough : buffer.length ≤ position + rounds) :
    Crashes (whileRemaining IoFault.unfinished reader rounds buffer position) ↔
      ∃ values place, Passes reader buffer position values place ∧
        Crashes (reader buffer place) := by
  have never {position : Nat} (beyond : buffer.length ≤ position) :
      Crashes (.ok ([], position) : Except IoFault (List α × Nat)) ↔
        ∃ values place, Passes reader buffer position values place ∧
          Crashes (reader buffer place) := by
    constructor
    · exact fun crashed => absurd crashed (not_crashes_ok _)
    · rintro ⟨values, place, passed, crashed⟩
      exact absurd crashed (ends.not_reached beyond passed)
  induction rounds generalizing position with
  | zero =>
      have beyond : buffer.length ≤ position := enough
      rw [whileRemaining_beyond beyond]
      exact never beyond
  | succ rounds ih =>
      by_cases inside : position < buffer.length
      · rw [whileRemaining_inside inside, crashes_bind]
        constructor
        · rintro (crashed | ⟨value, middle, read, crashed⟩)
          · exact ⟨[], position, .nil, crashed⟩
          · have moved := moves _ _ _ _ read
            obtain ⟨values, place, passed, crashed⟩ :=
              (ih (by omega)).mp (crashes_before.mp crashed)
            exact ⟨value :: values, place, .cons read passed, crashed⟩
        · rintro ⟨values, place, passed, crashed⟩
          cases passed with
          | nil => exact .inl crashed
          | @cons _ middle _ value values read more =>
              have moved := moves _ _ _ _ read
              refine .inr ⟨value, middle, read, crashes_before.mpr ?_⟩
              exact (ih (by omega)).mpr ⟨values, place, more, crashed⟩
      · rw [whileRemaining_beyond (Nat.not_lt.mp inside)]
        exact never (Nat.not_lt.mp inside)

theorem crashes_untilEnd (moves : Consumes 1 reader) (ends : EndsWith reader buffer) :
    Crashes (untilEnd IoFault.unfinished reader buffer position) ↔
      ∃ values place, Passes reader buffer position values place ∧
        Crashes (reader buffer place) :=
  crashes_whileRemaining moves ends (Nat.le_add_left _ _)

theorem whileRemaining_eq_ok_iff (moves : Consumes 1 reader) (ends : EndsWith reader buffer)
    {rounds : Nat} (enough : buffer.length ≤ position + rounds) {values : List α} {stop : Nat} :
    whileRemaining IoFault.unfinished reader rounds buffer position = .ok (values, stop) ↔
      Passes reader buffer position values stop ∧ buffer.length ≤ stop := by
  have done {position : Nat} {values : List α} (beyond : buffer.length ≤ position) :
      (.ok ([], position) : Except IoFault (List α × Nat)) = .ok (values, stop) ↔
        Passes reader buffer position values stop ∧ buffer.length ≤ stop := by
    constructor
    · intro same
      cases same
      exact ⟨.nil, beyond⟩
    · rintro ⟨passed, _⟩
      cases passed with
      | nil => rfl
      | cons read more => exact absurd read (ends.not_ok beyond _)
  induction rounds generalizing position values with
  | zero =>
      have beyond : buffer.length ≤ position := enough
      rw [whileRemaining_beyond beyond]
      exact done beyond
  | succ rounds ih =>
      by_cases inside : position < buffer.length
      · rw [whileRemaining_inside inside, bind_eq_ok_iff]
        constructor
        · rintro ⟨value, middle, read, rest⟩
          obtain ⟨others, last, more, same⟩ := bind_eq_ok_iff.mp rest
          cases same
          have moved := moves _ _ _ _ read
          obtain ⟨passed, reached⟩ := (ih (by omega)).mp more
          exact ⟨.cons read passed, reached⟩
        · rintro ⟨passed, reached⟩
          cases passed with
          | nil => exact absurd inside (Nat.not_lt.mpr reached)
          | @cons _ middle _ value others read more =>
              have moved := moves _ _ _ _ read
              refine ⟨value, middle, read, bind_eq_ok_iff.mpr ⟨others, stop, ?_, rfl⟩⟩
              exact (ih (by omega)).mpr ⟨more, reached⟩
      · rw [whileRemaining_beyond (Nat.not_lt.mp inside)]
        exact done (Nat.not_lt.mp inside)

theorem untilEnd_eq_ok_iff (moves : Consumes 1 reader) (ends : EndsWith reader buffer)
    {values : List α} {stop : Nat} :
    untilEnd IoFault.unfinished reader buffer position = .ok (values, stop) ↔
      Passes reader buffer position values stop ∧ buffer.length ≤ stop :=
  whileRemaining_eq_ok_iff moves ends (Nat.le_add_left _ _)

theorem crashes_repeated {count : Nat} :
    Crashes (repeated reader count buffer position) ↔
      ∃ values place, Passes reader buffer position values place ∧ values.length < count ∧
        Crashes (reader buffer place) := by
  induction count generalizing position with
  | zero =>
      constructor
      · exact fun crashed => absurd crashed (not_crashes_ok _)
      · rintro ⟨_, _, _, impossible, _⟩
        cases impossible
  | succ count ih =>
      rw [repeated, crashes_bind]
      constructor
      · rintro (crashed | ⟨value, middle, read, crashed⟩)
        · exact ⟨[], position, .nil, Nat.zero_lt_succ _, crashed⟩
        · obtain ⟨values, place, passed, fewer, crashed⟩ := ih.mp (crashes_before.mp crashed)
          exact ⟨value :: values, place, .cons read passed, Nat.succ_lt_succ fewer, crashed⟩
      · rintro ⟨values, place, passed, fewer, crashed⟩
        cases passed with
        | nil => exact .inl crashed
        | @cons _ middle _ value values read more =>
            refine .inr ⟨value, middle, read, crashes_before.mpr ?_⟩
            exact ih.mpr ⟨values, place, more, Nat.lt_of_succ_lt_succ fewer, crashed⟩

/-! ## Readers that agree on a buffer -/

theorem whileRemaining_congr (same : ∀ position, first buffer position = second buffer position)
    (rounds : Nat) : whileRemaining IoFault.unfinished first rounds buffer position =
      whileRemaining IoFault.unfinished second rounds buffer position := by
  induction rounds generalizing position with
  | zero => rfl
  | succ rounds ih =>
      simp only [whileRemaining, bind_apply, same, ih]

theorem untilEnd_congr (same : ∀ position, first buffer position = second buffer position) :
    untilEnd IoFault.unfinished first buffer position =
      untilEnd IoFault.unfinished second buffer position :=
  whileRemaining_congr same _

theorem repeated_congr (same : ∀ position, first buffer position = second buffer position)
    (count : Nat) : repeated first count buffer position = repeated second count buffer position := by
  induction count generalizing position with
  | zero => rfl
  | succ count ih => simp only [repeated, bind_apply, same, ih]

end Reader

/-! ## Readers that crash more often -/

/-- The result is the other one unless it is a crash. -/
def OrCrash (limited whole : Except IoFault α) : Prop := Crashes limited ∨ limited = whole

theorem OrCrash.map {limited whole : Except IoFault α} (same : OrCrash limited whole)
    (change : α → β) : OrCrash (do return change (← limited)) (do return change (← whole)) := by
  rcases same with crashed | rfl
  · exact .inl ((crashes_map change).mpr crashed)
  · exact .inr rfl

namespace Reader

/-- The reader gives what the other one gives wherever it does not crash. -/
def Restricts (limited whole : Reader IoFault α) : Prop :=
  ∀ buffer position, OrCrash (limited buffer position) (whole buffer position)

namespace Restricts

variable {limited whole : Reader IoFault α}

theorem refl (reader : Reader IoFault α) : Restricts reader reader := fun _ _ => .inr rfl

theorem bind {next other : α → Reader IoFault β} (front : Restricts limited whole)
    (behind : ∀ value, Restricts (next value) (other value)) :
    Restricts (limited >>= next) (whole >>= other) := by
  intro buffer position
  rcases front buffer position with crashed | same
  · exact .inl (crashes_bind.mpr (.inl crashed))
  · rw [OrCrash, bind_apply, bind_apply, same]
    cases whole buffer position with
    | error fault => exact .inr rfl
    | ok found => exact behind found.1 buffer found.2

/-- Behind a reader that both have in front. -/
theorem behind {reader : Reader IoFault α} {next other : α → Reader IoFault β}
    (rest : ∀ value, Restricts (next value) (other value)) :
    Restricts (reader >>= next) (reader >>= other) :=
  (refl reader).bind rest

/-- In front of what both have behind. -/
theorem before {next : α → Reader IoFault β} (front : Restricts limited whole) :
    Restricts (limited >>= next) (whole >>= next) :=
  front.bind fun value => refl (next value)

theorem ofExcept {first second : Except IoFault α} (same : OrCrash first second) :
    Restricts (ofExcept first) (ofExcept second) := by
  intro buffer position
  rcases same with crashed | rfl
  · exact .inl (crashes_ofExcept.mpr crashed)
  · exact .inr rfl

theorem parse (restricts : Restricts limited whole) (data : Bytes) :
    OrCrash (limited.parse data) (whole.parse data) := by
  rcases restricts data 0 with crashed | same
  · exact .inl (crashes_parse.mpr crashed)
  · refine .inr ?_
    unfold Reader.parse
    rw [same]

theorem repeated (restricts : Restricts limited whole) (count : Nat) :
    Restricts (repeated limited count) (repeated whole count) := by
  induction count with
  | zero => exact refl _
  | succ count ih => exact restricts.bind fun value => ih.before

theorem whileRemaining (restricts : Restricts limited whole) (rounds : Nat) :
    Restricts (whileRemaining IoFault.unfinished limited rounds)
      (whileRemaining IoFault.unfinished whole rounds) := by
  induction rounds with
  | zero => exact refl _
  | succ rounds ih =>
      intro buffer position
      by_cases inside : position < buffer.length
      · rw [whileRemaining_inside inside, whileRemaining_inside inside]
        exact (restricts.bind fun _ => ih.before) buffer position
      · rw [whileRemaining_beyond (Nat.not_lt.mp inside),
          whileRemaining_beyond (Nat.not_lt.mp inside)]
        exact .inr rfl

theorem untilEnd (restricts : Restricts limited whole) :
    Restricts (untilEnd IoFault.unfinished limited) (untilEnd IoFault.unfinished whole) :=
  fun buffer position => restricts.whileRemaining _ buffer position

end Restricts

end Reader

end ScuffleVideo.Wire
