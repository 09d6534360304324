import Mathlib.Algebra.BigOperators.Group.List.Basic
import ScuffleVideo.Wire.Cursor

/-!
# How far readers go

A value is measured by the bytes it needs.  A reader spans a measure if it takes at least as many
bytes as the value that it returns needs, and stays inside the buffer.
-/

namespace ScuffleVideo.Wire.Reader

variable {ε α β : Type}

/-! ## Going on behind bytes that are known -/

/-- The reader takes the bytes and goes on as another one. -/
def Leads (reader rest : Reader ε α) (bytes : Bytes) : Prop :=
  ∀ before after : Bytes, reader (before ++ bytes ++ after) before.length =
    rest (before ++ bytes ++ after) (before.length + bytes.length)

theorem Reads.leads {first : Reader ε α} {next : α → Reader ε β} {rest : Reader ε β}
    {bytes more : Bytes} {middle : α} (head : Reads first bytes middle)
    (tail : Leads (next middle) rest more) : Leads (first >>= next) rest (bytes ++ more) := by
  intro before after
  have firstRead := head before (more ++ after)
  have nextRead := tail (before ++ bytes) after
  rw [List.length_append, List.append_assoc before, Nat.add_assoc] at nextRead
  have same : before ++ bytes ++ (more ++ after) = before ++ (bytes ++ more) ++ after := by
    simp only [List.append_assoc]
  rw [same] at firstRead
  rw [bind_ok firstRead, nextRead, List.length_append]

theorem Reads.leadsLast {first : Reader ε α} {next : α → Reader ε β} {bytes : Bytes} {middle : α}
    (head : Reads first bytes middle) : Leads (first >>= next) (next middle) bytes := by
  intro before after
  rw [bind_ok (head before after)]

/-- A reader that goes on to scan the rest and makes its value of what it finds there. -/
theorem Leads.parse_eq_ok_iff {reader : Reader ε α} {scan : Reader ε β} {make : β → α}
    {bytes rest : Bytes} (leads : Leads reader (do return make (← scan)) bytes) {value : α} :
    reader.parse (bytes ++ rest) = .ok value ↔
      ∃ found stop, scan (bytes ++ rest) bytes.length = .ok (found, stop) ∧ make found = value := by
  have start := leads [] rest
  rw [List.nil_append, List.length_nil, Nat.zero_add] at start
  unfold parse
  rw [start, bind_apply]
  cases scanned : scan (bytes ++ rest) bytes.length with
  | error fault =>
      constructor
      · intro impossible
        cases impossible
      · rintro ⟨_, _, impossible, _⟩
        cases impossible
  | ok pair =>
      constructor
      · intro same
        exact ⟨pair.1, pair.2, rfl, Except.ok.inj same⟩
      · rintro ⟨_, _, ⟨⟩, rfl⟩
        rfl

/-! ## Spans -/

/-- The reader takes as many bytes as its value needs, all inside the buffer. -/
def Spans (reader : Reader ε α) (need : α → Nat) : Prop :=
  ∀ (buffer : Bytes) (position stop : Nat) (value : α), position ≤ buffer.length →
    reader buffer position = .ok (value, stop) → position + need value ≤ stop ∧ stop ≤ buffer.length

namespace Spans

theorem pure {value : α} {need : α → Nat} (nothing : need value = 0) :
    Spans (pure value : Reader ε α) need := by
  intro buffer position stop result inside read
  cases read
  rw [nothing]
  exact ⟨Nat.le_refl _, inside⟩

theorem fail (fault : ε) (need : α → Nat) : Spans (Reader.fail fault : Reader ε α) need := by
  intro buffer position stop result inside read
  cases read

/-- What the first value takes, the rest of the reader need not. -/
theorem bind {first : Reader ε α} {next : α → Reader ε β} {own : α → Nat} {need : β → Nat}
    (head : Spans first own) (tail : ∀ value, Spans (next value) fun result => need result - own value) :
    Spans (first >>= next) need := by
  intro buffer position stop result inside read
  obtain ⟨value, middle, firstRead, more⟩ := bind_eq_ok_iff.mp read
  have early := head _ _ _ _ inside firstRead
  have late : middle + (need result - own value) ≤ stop ∧ stop ≤ buffer.length :=
    tail value _ _ _ _ early.2 more
  exact ⟨by omega, late.2⟩

theorem map {reader : Reader ε α} {next : α → β} {own : α → Nat} {need : β → Nat}
    (spans : Spans reader own) (fewer : ∀ value, need (next value) ≤ own value) :
    Spans (do return next (← reader)) need :=
  spans.bind fun value => pure (Nat.sub_eq_zero_of_le (fewer value))

theorem take [Starving ε] (count : Nat) : Spans (Reader.take count : Reader ε Bytes) fun _ => count := by
  intro buffer position stop bytes inside read
  obtain ⟨_, rfl, present⟩ := take_eq_ok read
  exact ⟨Nat.le_refl _, present⟩

theorem readUint [Starving ε] (width : Nat) :
    Spans (Reader.readUint width : Reader ε Nat) fun _ => width :=
  (take width).map fun _ => Nat.le_refl _

theorem readU8 [Starving ε] : Spans (Reader.readU8 : Reader ε UInt8) fun _ => 1 :=
  (readUint 1).map fun _ => Nat.le_refl _

theorem readU16 [Starving ε] : Spans (Reader.readU16 : Reader ε UInt16) fun _ => 2 :=
  (readUint 2).map fun _ => Nat.le_refl _

theorem readU24 [Starving ε] : Spans (Reader.readU24 : Reader ε UInt32) fun _ => 3 :=
  (readUint 3).map fun _ => Nat.le_refl _

theorem readU32 [Starving ε] : Spans (Reader.readU32 : Reader ε UInt32) fun _ => 4 :=
  (readUint 4).map fun _ => Nat.le_refl _

theorem optionally {reader : Reader ε α} {need : α → Nat} (present : Bool)
    (spans : Spans reader need) :
    Spans (Reader.optionally present reader) fun value => value.elim 0 need := by
  unfold Reader.optionally
  cases present with
  | true => exact spans.map fun _ => Nat.le_refl _
  | false => exact pure rfl

theorem repeated {reader : Reader ε α} {need : α → Nat} (spans : Spans reader need) (count : Nat) :
    Spans (Reader.repeated reader count) fun values => (values.map need).sum := by
  induction count with
  | zero => exact pure rfl
  | succ count ih =>
      refine spans.bind fun value => ih.bind fun values => pure ?_
      rw [List.map_cons, List.sum_cons]
      omega

end Spans

/-! ## Records until the end -/

/-- The records that a reader finds one after the other until the buffer ends. -/
inductive Scans (reader : Reader ε α) (buffer : Bytes) : Nat → List α → Nat → Prop
  | done {position : Nat} (past : buffer.length ≤ position) :
      Scans reader buffer position [] position
  | step {position middle stop : Nat} {value : α} {values : List α}
      (read : reader buffer position = .ok (value, middle))
      (more : Scans reader buffer middle values stop) :
      Scans reader buffer position (value :: values) stop

theorem scans_of_whileRemaining {unfinished : ε} {reader : Reader ε α} {rounds : Nat}
    {buffer : Bytes} {position stop : Nat} {values : List α}
    (read : whileRemaining unfinished reader rounds buffer position = .ok (values, stop)) :
    Scans reader buffer position values stop := by
  induction rounds generalizing position values with
  | zero =>
      unfold whileRemaining at read
      split at read
      · cases read
      · rename_i past
        cases read
        exact .done (Nat.le_of_not_lt past)
  | succ rounds ih =>
      unfold whileRemaining at read
      split at read
      · obtain ⟨value, middle, first, more⟩ := bind_eq_ok_iff.mp read
        obtain ⟨values, stop, others, same⟩ := bind_eq_ok_iff.mp more
        cases same
        exact .step first (ih others)
      · rename_i past
        cases read
        exact .done (Nat.le_of_not_lt past)

/-- Readers that do the same in a buffer find the same in it. -/
theorem Scans.congr {reader other : Reader ε α} {buffer : Bytes} {position stop : Nat}
    {values : List α} (scans : Scans reader buffer position values stop)
    (same : ∀ position, reader buffer position = other buffer position) :
    Scans other buffer position values stop := by
  induction scans with
  | done past => exact .done past
  | step read _ ih => exact .step ((same _).symm.trans read) ih

/-- Records that follow each other inside the buffer need no more than there is. -/
theorem Scans.need_le {reader : Reader ε α} {need : α → Nat} (spans : Spans reader need)
    {buffer : Bytes} {position stop : Nat} {values : List α} (inside : position ≤ buffer.length)
    (scans : Scans reader buffer position values stop) :
    position + (values.map need).sum ≤ stop ∧ stop ≤ buffer.length := by
  induction scans with
  | done past => exact ⟨Nat.le_refl _, inside⟩
  | step read more ih =>
      have first := spans _ _ _ _ inside read
      have rest := ih first.2
      rw [List.map_cons, List.sum_cons]
      exact ⟨by omega, rest.2⟩

theorem Spans.untilEnd {reader : Reader ε α} {need : α → Nat} (unfinished : ε)
    (spans : Spans reader need) :
    Spans (Reader.untilEnd unfinished reader) fun values => (values.map need).sum :=
  fun _ _ _ _ inside read => (scans_of_whileRemaining read).need_le spans inside

end ScuffleVideo.Wire.Reader
