import Mathlib.Data.List.TakeWhile

/-!
# Labels of metrics

The keys of resources, scopes and attributes are free texts.  Unless the scraper takes the
whole of Unicode they are escaped on their way into a label: the name of a label is made of
ASCII letters and digits, `_` and `:`, and does not start with a digit.

The escape keeps what stands in front of the first character that it finds wanting, and
replaces what is not allowed behind it.  It looks for that character with the alphanumeric
characters of Unicode and replaces with those of ASCII.
-/

namespace ScuffleVideo.Metrics

/-- The characters that are alphanumeric in the version of Unicode that the standard library
follows.  In ASCII they are the letters and the digits. -/
structure CharTable where
  isAlphanumeric : Char → Bool
  ascii : ∀ char : Char, char.toNat < 128 → isAlphanumeric char = char.isAlphanum

/-- An ASCII letter or digit, `_` or `:`. -/
def isKeyChar (char : Char) : Bool := char.isAlphanum || char == '_' || char == ':'

/-- The form of a label name. -/
def ValidKey (text : String) : Prop :=
  (∀ char ∈ text.toList, isKeyChar char = true) ∧
    ∀ char ∈ text.toList.head?, char.isDigit = false

instance (text : String) : Decidable (ValidKey text) := inferInstanceAs (Decidable (_ ∧ _))

variable (table : CharTable)

/-- The character is found wanting where it stands.  A digit is wrong in the first place
only. -/
def isInvalid (entry : Char × Nat) : Bool :=
  if entry.2 == 0 && entry.1.isDigit then true
  else !table.isAlphanumeric entry.1 && entry.1 != '_' && entry.1 != ':'

def replace (char : Char) : Char := if isKeyChar char then char else '_'

/-- The text as it is, or its characters from the first invalid one on replaced.  A text that
starts with a digit gets a character in front. -/
def escapeKey (text : String) : String :=
  match text.toList.zipIdx.find? (isInvalid table) with
  | some (char, place) =>
      String.ofList ((if place == 0 && char.isDigit then ['_'] else []) ++
        text.toList.take place ++ (text.toList.drop place).map replace)
  | none => text

/-! ## Label sets -/

structure Scope where
  name : String
  version : Option String
  schemaUrl : Option String
  attributes : List (String × String)

def scopeToIter (scope : Scope) : List (String × String) :=
  [("otel.scope.name", some scope.name), ("otel.scope.version", scope.version),
    ("otel.scope.schema_url", scope.schemaUrl)].filterMap (fun entry =>
      entry.2.map fun value => (entry.1, value)) ++ scope.attributes

structure KeyValueEncoder where
  resource : Option (List (String × String))
  scope : Option Scope
  attrs : Option (List (String × String))
  prometheusFullUtf8 : Bool

/-- The label of a key and its value. -/
def writeKv (prometheusFullUtf8 : Bool) (entry : String × String) : String × String :=
  (if prometheusFullUtf8 then entry.1 else escapeKey table entry.1, entry.2)

namespace KeyValueEncoder

/-- The keys and values of an encoder in the order in which they are written. -/
def entries (encoder : KeyValueEncoder) : List (String × String) :=
  encoder.resource.getD [] ++ (encoder.scope.map scopeToIter).getD [] ++ encoder.attrs.getD []

def encode (encoder : KeyValueEncoder) : List (String × String) :=
  encoder.entries.map (writeKv table encoder.prometheusFullUtf8)

end KeyValueEncoder

/-! ## What is kept -/

/-- The search passes the character in any place but the first. -/
def isKept (char : Char) : Bool := table.isAlphanumeric char || char == '_' || char == ':'

def startsWithDigit (text : String) : Bool := text.toList.head?.any Char.isDigit

variable {table}

theorem isAscii_of_isKeyChar {char : Char} (key : isKeyChar char = true) : char.toNat < 128 := by
  have alphanumeric (shown : char.isAlphanum = true) : char.toNat < 128 := by
    change (decide (65 ≤ char.val ∧ char.val ≤ 90) ||
      (decide (97 ≤ char.val) && decide (char.val ≤ 122)) ||
      (decide (48 ≤ char.val) && decide (char.val ≤ 57))) = true at shown
    simp only [Bool.or_eq_true, Bool.and_eq_true, decide_eq_true_eq, UInt32.le_iff_toNat_le]
      at shown
    rcases shown with (⟨_, most⟩ | ⟨_, most⟩) | ⟨_, most⟩ <;>
      exact Nat.lt_of_le_of_lt most (by decide)
  simp only [isKeyChar, Bool.or_eq_true, beq_iff_eq] at key
  rcases key with (shown | rfl) | rfl
  · exact alphanumeric shown
  · decide
  · decide

theorem isKept_of_ascii {char : Char} (ascii : char.toNat < 128) :
    isKept table char = isKeyChar char := by
  rw [isKept, isKeyChar, table.ascii char ascii]

/-- Everywhere but in the first place, the search stops at what it does not keep. -/
theorem isInvalid_succ (char : Char) (place : Nat) :
    isInvalid table (char, place + 1) = !isKept table char := by
  simp [isInvalid, isKept, Bool.and_assoc, bne]

theorem isInvalid_zero (char : Char) :
    isInvalid table (char, 0) = (char.isDigit || !isKept table char) := by
  cases digit : char.isDigit <;> simp [isInvalid, isKept, Bool.and_assoc, bne, digit]

theorem find_invalid (chars : List Char) (start : Nat) :
    (chars.zipIdx (start + 1)).find? (isInvalid table) =
      (chars.dropWhile (isKept table)).head?.map fun char =>
        (char, start + 1 + (chars.takeWhile (isKept table)).length) := by
  induction chars generalizing start with
  | nil => rfl
  | cons char chars ih =>
      rw [List.zipIdx_cons, List.find?_cons, isInvalid_succ, List.dropWhile_cons,
        List.takeWhile_cons]
      cases kept : isKept table char with
      | false => rfl
      | true =>
          simp only [Bool.not_true, ih, if_true, List.length_cons]
          have place (count : Nat) : start + 1 + 1 + count = start + 1 + (count + 1) := by omega
          simp only [place]

theorem escapeKey_of_digit {text : String} (digit : startsWithDigit text = true) :
    escapeKey table text = String.ofList ('_' :: text.toList.map replace) := by
  unfold startsWithDigit at digit
  unfold escapeKey
  cases chars : text.toList with
  | nil =>
      rw [chars] at digit
      cases digit
  | cons char rest =>
      rw [chars] at digit
      change char.isDigit = true at digit
      simp [List.zipIdx_cons, isInvalid_zero, digit]

/-- Without a digit in front, the escape keeps a first part and replaces in the rest. -/
theorem escapeKey_of_not_digit {text : String} (other : startsWithDigit text = false) :
    escapeKey table text = String.ofList (text.toList.takeWhile (isKept table) ++
      (text.toList.dropWhile (isKept table)).map replace) := by
  have whole := List.takeWhile_append_dropWhile (p := isKept table) (l := text.toList)
  unfold startsWithDigit at other
  unfold escapeKey
  cases chars : text.toList with
  | nil =>
      change text = String.ofList []
      rw [← chars, String.ofList_toList]
  | cons char rest =>
      rw [chars] at other whole
      change char.isDigit = false at other
      rw [List.zipIdx_cons, List.find?_cons, isInvalid_zero, other, Bool.false_or]
      cases kept : isKept table char with
      | false => simp [kept, other]
      | true =>
          simp only [Bool.not_true, find_invalid]
          rw [List.takeWhile_cons, List.dropWhile_cons, if_pos kept, if_pos kept] at whole ⊢
          cases left : rest.dropWhile (isKept table) with
          | nil =>
              rw [left, List.append_nil] at whole
              simp only [List.head?_nil, Option.map_none, List.map_nil, List.append_nil]
              rw [whole, ← chars, String.ofList_toList]
          | cons first others =>
              rw [left] at whole
              have place : 0 + 1 + (rest.takeWhile (isKept table)).length =
                  (char :: rest.takeWhile (isKept table)).length := by
                rw [List.length_cons]
                omega
              simp only [List.head?_cons, Option.map_some]
              rw [place, ← whole, List.take_left, List.drop_left]
              rfl

/-! ## Valid keys -/

theorem isKeyChar_replace (char : Char) : isKeyChar (replace char) = true := by
  unfold replace
  split
  · assumption
  · decide

theorem startsWithDigit_of_valid {text : String} (valid : ValidKey text) :
    startsWithDigit text = false := by
  have first := valid.2
  unfold startsWithDigit
  cases found : text.toList.head? with
  | none => rfl
  | some char =>
      rw [found] at first
      exact first char rfl

theorem escapeKey_of_valid {text : String} (valid : ValidKey text) :
    escapeKey table text = text := by
  have kept : ∀ char ∈ text.toList, isKept table char = true := by
    intro char member
    have key := valid.1 char member
    rw [isKept_of_ascii (isAscii_of_isKeyChar key), key]
  rw [escapeKey_of_not_digit (startsWithDigit_of_valid valid), List.takeWhile_eq_self_iff.mpr kept,
    List.dropWhile_eq_nil_iff.mpr kept, List.map_nil, List.append_nil, String.ofList_toList]

/-- The text starts with a digit, or what stands in front of its first character that is
neither alphanumeric nor `_` nor `:` is ASCII. -/
def PlainStart (table : CharTable) (text : String) : Prop :=
  startsWithDigit text = true ∨ ∀ char ∈ text.toList.takeWhile (isKept table), char.toNat < 128

/-- A character that is not kept is replaced by one that is no digit. -/
theorem isDigit_replace {char : Char} (dropped : isKept table char = false) :
    (replace char).isDigit = false := by
  unfold replace
  split
  · rename_i key
    rw [isKept_of_ascii (isAscii_of_isKeyChar key), key] at dropped
    cases dropped
  · decide

theorem validKey_escapeKey {text : String} (plain : PlainStart table text) :
    ValidKey (escapeKey table text) := by
  have replaced (chars : List Char) : ∀ char ∈ chars.map replace, isKeyChar char = true := by
    intro char member
    obtain ⟨source, _, rfl⟩ := List.mem_map.mp member
    exact isKeyChar_replace source
  by_cases digit : startsWithDigit text = true
  · rw [escapeKey_of_digit digit, ValidKey, String.toList_ofList]
    refine ⟨List.forall_mem_cons.mpr ⟨by decide, replaced _⟩, ?_⟩
    rintro _ ⟨⟩
    decide
  · have ascii := plain.resolve_left digit
    have other : startsWithDigit text = false := Bool.eq_false_iff.mpr digit
    rw [escapeKey_of_not_digit other, ValidKey, String.toList_ofList]
    constructor
    · refine List.forall_mem_append.mpr ⟨fun char member => ?_, replaced _⟩
      rw [← isKept_of_ascii (ascii char member)]
      exact List.mem_takeWhile_imp member
    · unfold startsWithDigit at other
      cases chars : text.toList with
      | nil => rintro _ ⟨⟩
      | cons first rest =>
          rw [chars] at other
          change first.isDigit = false at other
          rw [List.takeWhile_cons, List.dropWhile_cons]
          cases kept : isKept table first with
          | true =>
              rintro _ ⟨⟩
              exact other
          | false =>
              rintro _ ⟨⟩
              exact isDigit_replace kept

/-- Nothing else is escaped to a valid key. -/
theorem validKey_escapeKey_iff {text : String} :
    ValidKey (escapeKey table text) ↔ PlainStart table text := by
  refine ⟨fun valid => ?_, validKey_escapeKey⟩
  by_cases digit : startsWithDigit text = true
  · exact .inl digit
  · refine .inr fun char member => ?_
    rw [escapeKey_of_not_digit (Bool.eq_false_iff.mpr digit), ValidKey, String.toList_ofList]
      at valid
    exact isAscii_of_isKeyChar (valid.1 char (List.mem_append_left _ member))

/-- What an escape is for: it makes valid keys, leaves exactly those alone, and changes
nothing when it is applied again. -/
structure Escapes (table : CharTable) (text : String) : Prop where
  valid : ValidKey (escapeKey table text)
  unchanged_iff : escapeKey table text = text ↔ ValidKey text
  again : escapeKey table (escapeKey table text) = escapeKey table text

/-- The escape does what it is for exactly for the texts with a plain start. -/
theorem escapes_iff (table : CharTable) (text : String) :
    Escapes table text ↔ PlainStart table text := by
  constructor
  · intro escapes
    exact validKey_escapeKey_iff.mp escapes.valid
  · intro plain
    have valid := validKey_escapeKey plain
    refine ⟨valid, ⟨fun same => ?_, escapeKey_of_valid⟩, escapeKey_of_valid valid⟩
    rw [same] at valid
    exact valid

/-- The alphanumeric characters among the first 256 of Unicode. -/
def latin : CharTable where
  isAlphanumeric char :=
    char.isAlphanum || [0xAA, 0xB2, 0xB3, 0xB5, 0xB9, 0xBA, 0xBC, 0xBD, 0xBE].contains char.toNat ||
      (0xC0 ≤ char.toNat && char.toNat ≤ 0xFF && char.toNat != 0xD7 && char.toNat != 0xF7)
  ascii char small := by
    have low : [0xAA, 0xB2, 0xB3, 0xB5, 0xB9, 0xBA, 0xBC, 0xBD, 0xBE].contains char.toNat =
        false := by
      simp only [List.contains_eq_mem, decide_eq_false_iff_not, List.mem_cons, List.not_mem_nil,
        or_false, not_or]
      omega
    have below : decide (0xC0 ≤ char.toNat) = false := decide_eq_false (by omega)
    rw [low, below]
    simp

/-- An accented letter in front is kept. -/
theorem accented_key_kept :
    escapeKey latin "é" = "é" ∧ ¬ValidKey "é" ∧ ¬Escapes latin "é" := by
  have kept : escapeKey latin "é" = "é" := by decide
  have refused : ¬ValidKey "é" := by
    rintro ⟨valid, _⟩
    exact absurd (valid 'é' (by decide)) (by decide)
  refine ⟨kept, refused, fun escapes => ?_⟩
  exact refused (escapes.unchanged_iff.mp kept)

end ScuffleVideo.Metrics
