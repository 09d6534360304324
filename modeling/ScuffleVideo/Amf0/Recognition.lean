import ScuffleVideo.Amf0.Grammar

/-!
# The decoder recognises the grammar

Where the bytes spell a value the decoder returns it and stops behind it.  Where
they fail it ends the way the failure says.  One of the two happens at every
position, so the decoder always ends and the two describe it completely.
-/

namespace ScuffleVideo.Amf0

open Wire Wire.Reader Amf0Decoder

/-- The ending as the caller sees it. -/
inductive Ending.Shows : Ending → Halt → Prop
  | rejected {position : Nat} {reason : Amf0ReadError} :
      Shows (.rejected position) (.error reason position)
  | overrun : Shows .overrun .panic

/-- The reader does not return, and ends this way. -/
def EndsIn {α : Type} (reader : Reader Halt α) (data : Bytes) (position : Nat)
    (ending : Ending) : Prop :=
  ∃ halt, reader data position = .error halt ∧ ending.Shows halt

namespace EndsIn

variable {α β : Type} {first : Reader Halt α} {next : α → Reader Halt β} {data : Bytes}
  {position middle : Nat} {ending : Ending} {value : α}

theorem bind (ended : EndsIn first data position ending) (next : α → Reader Halt β) :
    EndsIn (first >>= next) data position ending := by
  obtain ⟨halt, failed, shown⟩ := ended
  exact ⟨halt, bind_error failed next, shown⟩

theorem andThen (read : first data position = .ok (value, middle))
    (ended : EndsIn (next value) data middle ending) :
    EndsIn (first >>= next) data position ending := by
  obtain ⟨halt, failed, shown⟩ := ended
  exact ⟨halt, by rw [bind_ok read, failed], shown⟩

theorem raise (reason : Amf0ReadError) :
    EndsIn (Amf0Decoder.raise reason : Reader Halt α) data position (.rejected position) :=
  ⟨_, rfl, .rejected⟩

theorem unique {reader : Reader Halt α} {other : Ending}
    (ended : EndsIn reader data position ending) (again : EndsIn reader data position other) :
    ending = other := by
  obtain ⟨halt, failed, shown⟩ := ended
  obtain ⟨halt', failed', shown'⟩ := again
  rw [failed] at failed'
  cases failed'
  cases shown with
  | rejected => cases shown'; rfl
  | overrun => cases shown'; rfl

theorem not_ok {reader : Reader Halt α} (ended : EndsIn reader data position ending)
    (read : reader data position = .ok (value, middle)) : False := by
  obtain ⟨halt, failed, _⟩ := ended
  rw [read] at failed
  cases failed

end EndsIn

/-! ## Fields -/

section Fields

variable {α : Type} {shortRead : ShortRead} {data : Bytes} {position width number : Nat}

theorem reads_field {reader : Reader IoFault α} {bytes : Bytes} {value : α}
    (read : Reads reader bytes value) : Reads (field shortRead reader) bytes value := by
  intro before after
  rw [Amf0Decoder.field, read before after]

/-- A field cut short is an error that leaves the cursor where the library puts
it. -/
theorem field_short (convert : Nat → α) (missing : data.length < position + width) :
    EndsIn (field shortRead (do return convert (← readUint width))) data position
      (.rejected (shortRead.position data position)) := by
  rcases readUint_cases (ε := IoFault) width data position with ⟨_, _, stands⟩ | ⟨_, starved⟩
  · have present := stands.le_length
    rw [length_toBytesBE] at present
    omega
  · refine ⟨.error .io _, ?_, .rejected⟩
    rw [Amf0Decoder.field, bind_error starved]

/-- A reader of a length of `width` bytes. -/
structure ReadsLength (shortRead : ShortRead) (width : Nat) (reader : Reader Halt Nat) :
    Prop where
  reads {length : Nat} (small : length < 256 ^ width) :
    Reads reader (toBytesBE width length) length
  short {data : Bytes} {position : Nat} (missing : data.length < position + width) :
    EndsIn reader data position (.rejected (shortRead.position data position))

theorem readsLength_u16 :
    ReadsLength shortRead 2 (do return (← field shortRead readU16).toNat) where
  reads {length} small := by
    have read := @reads_field _ shortRead _ _ _
      ((Reads.readUint (ε := IoFault) 2 length).map UInt16.ofNat)
    rw [Nat.mod_eq_of_lt small] at read
    have same : (UInt16.ofNat length).toNat = length :=
      UInt16.toNat_ofNat_of_lt' (by simpa using small)
    have result := read.map UInt16.toNat
    rwa [same] at result
  short missing := (field_short UInt16.ofNat missing).bind _

theorem readsLength_u32 :
    ReadsLength shortRead 4 (do return (← field shortRead readU32).toNat) where
  reads {length} small := by
    have read := @reads_field _ shortRead _ _ _
      ((Reads.readUint (ε := IoFault) 4 length).map UInt32.ofNat)
    rw [Nat.mod_eq_of_lt small] at read
    have same : (UInt32.ofNat length).toNat = length :=
      UInt32.toNat_ofNat_of_lt' (by simpa using small)
    have result := read.map UInt32.toNat
    rwa [same] at result
  short missing := (field_short UInt32.ofNat missing).bind _

end Fields

/-! ## Texts -/

section Texts

variable {shortRead : ShortRead} {data : Bytes} {width position stop : Nat}
  {reader : Reader Halt Nat}

theorem readBytes_of_standsAt {bytes : Bytes} (stands : StandsAt data position bytes) :
    readBytes bytes.length data position = .ok (bytes, position + bytes.length) := by
  rw [readBytes, if_pos stands.le_length, stands.take_drop]

theorem readText_of_text {text : String} (length : ReadsLength shortRead width reader)
    (spelled : Text data width position text stop) :
    readText reader data position = .ok (text, stop) := by
  obtain ⟨bytes, small, stands, valid, rfl⟩ := spelled
  obtain ⟨header, body⟩ := StandsAt.append_iff.mp stands
  have lengthRead := (length.reads small).at header
  rw [length_toBytesBE] at body lengthRead
  rw [readText, bind_ok lengthRead, bind_ok (readBytes_of_standsAt body), valid]
  rfl

theorem readText_of_fails {ending : Ending} (length : ReadsLength shortRead width reader)
    (failed : TextFails shortRead data width position ending) :
    EndsIn (readText reader) data position ending := by
  cases failed with
  | short missing => exact (length.short missing).bind _
  | @invalid bytes small stands bad =>
      obtain ⟨header, body⟩ := StandsAt.append_iff.mp stands
      have lengthRead := (length.reads small).at header
      rw [length_toBytesBE] at body lengthRead
      apply EndsIn.andThen lengthRead
      apply EndsIn.andThen (readBytes_of_standsAt body)
      rw [bad]
      exact EndsIn.raise _
  | @overrun length' small stands past =>
      have lengthRead := (length.reads small).at stands
      rw [length_toBytesBE] at lengthRead
      apply EndsIn.andThen lengthRead
      refine EndsIn.bind ⟨.panic, ?_, .overrun⟩ _
      rw [readBytes, if_neg (by omega)]

theorem readString_of_text {text : String} (spelled : Text data 2 position text stop) :
    readString shortRead data position = .ok (text, stop) :=
  readText_of_text readsLength_u16 spelled

theorem readString_of_fails {ending : Ending}
    (failed : TextFails shortRead data 2 position ending) :
    EndsIn (readString shortRead) data position ending :=
  readText_of_fails readsLength_u16 failed

theorem readLongString_of_text {text : String} (spelled : Text data 4 position text stop) :
    readLongString shortRead data position = .ok (text, stop) :=
  readText_of_text readsLength_u32 spelled

theorem readLongString_of_fails {ending : Ending}
    (failed : TextFails shortRead data 4 position ending) :
    EndsIn (readLongString shortRead) data position ending :=
  readText_of_fails readsLength_u32 failed

/-- A text is spelled at a position or fails there. -/
theorem text_total (shortRead : ShortRead) (data : Bytes) (width position : Nat) :
    (∃ text stop, Text data width position text stop) ∨
      ∃ ending, TextFails shortRead data width position ending := by
  rcases readUint_cases (ε := IoFault) width data position with
    ⟨length, small, stands⟩ | ⟨missing, _⟩
  · by_cases present : position + width + length ≤ data.length
    · have size : ((data.drop (position + width)).take length).length = length := by
        rw [List.length_take, List.length_drop]
        omega
      have body := StandsAt.of_le present
      have whole : StandsAt data position (toBytesBE width length ++
          (data.drop (position + width)).take length) := by
        rw [StandsAt.append_iff, length_toBytesBE]
        exact ⟨stands, body⟩
      cases valid : fromUtf8 ((data.drop (position + width)).take length) with
      | some text =>
          exact .inl ⟨text, _, _, by rwa [size], by rwa [size], valid, rfl⟩
      | none => exact .inr ⟨_, .invalid (by rwa [size]) (by rwa [size]) valid⟩
    · exact .inr ⟨_, .overrun small stands (by omega)⟩
  · exact .inr ⟨_, .short missing⟩

end Texts

/-! ## The end marker -/

section EndMarker

variable {data : Bytes} {position stop : Nat}

theorem isReadObjectEof_of_present (present : StandsAt data position endMarker) :
    isReadObjectEof data position = .ok (true, position + 3) := by
  have read := (@Reads.readU24 IoFault _ 9 (by decide)).at present
  rw [isReadObjectEof, read]
  rfl

theorem isReadObjectEof_of_absent (absent : ¬ StandsAt data position endMarker) :
    isReadObjectEof data position = .ok (false, position) := by
  rcases readUint_cases (ε := IoFault) 3 data position with
    ⟨number, small, stands⟩ | ⟨_, starved⟩
  · have same : (UInt32.ofNat number).toNat = number :=
      UInt32.toNat_ofNat_of_lt' (Nat.lt_trans small (by decide))
    have other : number ≠ Amf0Marker.objectEnd.code := by
      rintro rfl
      exact absent stands
    have read := ((Reads.readUint (ε := IoFault) 3 number).map UInt32.ofNat).at stands
    rw [Nat.mod_eq_of_lt small] at read
    rw [isReadObjectEof, readU24, read]
    simp only [same, Amf0Marker.fromPrimitive_eq_some_iff, if_neg other]
  · rw [isReadObjectEof, readU24, bind_error starved]

theorem isReadObjectEof_of_closes (closed : Closes data position stop) :
    ∃ marked, isReadObjectEof data position = .ok (marked, stop) := by
  cases closed with
  | marked present => exact ⟨true, isReadObjectEof_of_present present⟩
  | unmarked absent => exact ⟨false, isReadObjectEof_of_absent absent⟩

end EndMarker

/-! ## Values and properties -/

section Values

variable {shortRead : ShortRead} {data : Bytes} {position middle next stop rounds : Nat}
  {limit remaining : Option Nat}

/-- Both property loops, told apart by what ends them. -/
def readProperties (shortRead : ShortRead) (rounds : Nat) :
    Option Nat → Reader Halt (List (String × Amf0Value))
  | none => readObjectWithin shortRead rounds
  | some count => readEntriesWithin shortRead rounds count

theorem readProperties_of_continues (continued : Continues data position limit remaining) :
    readProperties shortRead (rounds + 1) limit data position =
      (do
        let key ← readString shortRead
        let value ← decodeWithin shortRead rounds
        let properties ← readProperties shortRead rounds remaining
        return (key, value) :: properties : Reader Halt _) data position := by
  cases continued with
  | unended absent =>
      rw [readProperties, readObjectWithin, bind_ok (isReadObjectEof_of_absent absent)]
      rfl
  | counted => rfl

/-- The marker byte is read first and selects what follows. -/
theorem field_marker {byte : UInt8} (stands : StandsAt data position [byte]) :
    field shortRead readU8 data position = .ok (byte, position + 1) :=
  (reads_field (Reads.readU8 byte)).at stands

theorem decodeWithin_of_refused {byte : UInt8} (stands : StandsAt data position [byte])
    (refused : Refused byte) :
    EndsIn (decodeWithin shortRead (rounds + 1)) data position (.rejected (position + 1)) := by
  rw [decodeWithin]
  apply EndsIn.andThen (field_marker stands)
  cases known : Amf0Marker.fromPrimitive byte.toNat with
  | none => exact EndsIn.raise _
  | some marker =>
      obtain rfl := Amf0Marker.fromPrimitive_byte_iff.mp known
      cases marker <;> first | exact EndsIn.raise _ | exact absurd (by decide) refused

section Dispatch

theorem decodeWithin_number (stands : StandsAt data position [0x00]) :
    decodeWithin shortRead (rounds + 1) data position =
      (do return .number (← readNumber shortRead) : Reader Halt _) data (position + 1) := by
  exact bind_ok (field_marker stands) _

theorem decodeWithin_boolean (stands : StandsAt data position [0x01]) :
    decodeWithin shortRead (rounds + 1) data position =
      (do return .boolean (← readBool shortRead) : Reader Halt _) data (position + 1) := by
  exact bind_ok (field_marker stands) _

theorem decodeWithin_string (stands : StandsAt data position [0x02]) :
    decodeWithin shortRead (rounds + 1) data position =
      (do return .string (← readString shortRead) : Reader Halt _) data (position + 1) := by
  exact bind_ok (field_marker stands) _

theorem decodeWithin_object (stands : StandsAt data position [0x03]) :
    decodeWithin shortRead (rounds + 1) data position =
      (do return .object (← readProperties shortRead rounds none) : Reader Halt _) data
        (position + 1) := by
  exact bind_ok (field_marker stands) _

theorem decodeWithin_null (stands : StandsAt data position [0x05]) :
    decodeWithin shortRead (rounds + 1) data position = .ok (.null, position + 1) := by
  exact bind_ok (field_marker stands) _

theorem decodeWithin_ecmaArray (stands : StandsAt data position [0x08]) :
    decodeWithin shortRead (rounds + 1) data position =
      (do
        let length ← field shortRead readU32
        let properties ← readProperties shortRead rounds (some length.toNat)
        let _ ← isReadObjectEof
        return .object properties : Reader Halt _) data (position + 1) := by
  exact bind_ok (field_marker stands) _

theorem decodeWithin_longString (stands : StandsAt data position [0x0c]) :
    decodeWithin shortRead (rounds + 1) data position =
      (do return .longString (← readLongString shortRead) : Reader Halt _) data
        (position + 1) := by
  exact bind_ok (field_marker stands) _

end Dispatch

/-- The reader behind a phrase returns it. -/
def Returns (shortRead : ShortRead) (data : Bytes) (rounds position stop : Nat) : Phrase → Prop
  | .value value => decodeWithin shortRead rounds data position = .ok (value, stop)
  | .properties limit properties =>
      readProperties shortRead rounds limit data position = .ok (properties, stop)

/-- Enough rounds for the bytes that remain are at least one while some remain. -/
theorem exists_rounds (within : position < data.length + 1)
    (enough : data.length < position + rounds) : ∃ fewer, rounds = fewer + 1 :=
  ⟨rounds - 1, by omega⟩

theorem returns_of_spells {phrase : Phrase} (spelled : Spells data phrase position stop)
    (within : position ≤ data.length) (enough : data.length < position + rounds) :
    Returns shortRead data rounds position stop phrase := by
  induction spelled generalizing rounds with
  | @number position bits stands =>
      obtain ⟨rounds, rfl⟩ := exists_rounds (Nat.lt_succ_of_le within) enough
      obtain ⟨marker, body⟩ := StandsAt.cons_iff.mp stands
      have read := (@reads_field _ shortRead _ _ _ (Reads.readU64 bits)).at body
      rw [length_toBytesBE] at read
      exact (decodeWithin_number marker).trans (map_ok read _)
  | @boolean position byte stands =>
      obtain ⟨rounds, rfl⟩ := exists_rounds (Nat.lt_succ_of_le within) enough
      obtain ⟨marker, body⟩ := StandsAt.cons_iff.mp stands
      have read := map_ok (@field_marker shortRead _ _ _ body) fun byte => decide (0 < byte)
      exact (decodeWithin_boolean marker).trans (map_ok read _)
  | string stands spelled =>
      obtain ⟨rounds, rfl⟩ := exists_rounds (Nat.lt_succ_of_le within) enough
      exact (decodeWithin_string stands).trans
        (map_ok (readString_of_text spelled) _)
  | object stands spelled ih =>
      obtain ⟨rounds, rfl⟩ := exists_rounds (Nat.lt_succ_of_le within) enough
      exact (decodeWithin_object stands).trans (map_ok (ih stands.le_length (by omega)) _)
  | null stands =>
      obtain ⟨rounds, rfl⟩ := exists_rounds (Nat.lt_succ_of_le within) enough
      exact decodeWithin_null stands
  | @ecmaArray position middle stop count properties stands spelled closed ih =>
      obtain ⟨rounds, rfl⟩ := exists_rounds (Nat.lt_succ_of_le within) enough
      have present := stands.le_length
      simp only [List.length_cons, length_beU32] at present
      obtain ⟨marker, body⟩ := StandsAt.cons_iff.mp stands
      have length := (@reads_field _ shortRead _ _ _ (Reads.readU32 count)).at body
      rw [length_toBytesBE] at length
      obtain ⟨marked, ended⟩ := isReadObjectEof_of_closes closed
      have read := @ih rounds present (by omega)
      refine (decodeWithin_ecmaArray marker).trans ?_
      rw [bind_ok length, bind_ok read, bind_ok ended]
      rfl
  | longString stands spelled =>
      obtain ⟨rounds, rfl⟩ := exists_rounds (Nat.lt_succ_of_le within) enough
      exact (decodeWithin_longString stands).trans
        (map_ok (readLongString_of_text spelled) _)
  | ended stands =>
      obtain ⟨rounds, rfl⟩ := exists_rounds (Nat.lt_succ_of_le within) enough
      rw [Returns, readProperties, readObjectWithin, bind_ok (isReadObjectEof_of_present stands)]
      rfl
  | complete =>
      cases rounds with
      | zero => rfl
      | succ rounds => rfl
  | property continued keyed valued others valuedReturns othersReturn =>
      obtain ⟨rounds, rfl⟩ := exists_rounds (Nat.lt_succ_of_le within) enough
      have keyBounds := keyed.bounds
      have valueBounds := valued.bounds keyBounds.2
      simp only [Phrase.shape, Shape.least] at valueBounds
      have valueRead := @valuedReturns rounds keyBounds.2 (by omega)
      have othersRead := @othersReturn rounds valueBounds.2 (by omega)
      refine (readProperties_of_continues continued).trans ?_
      rw [bind_ok (readString_of_text keyed), bind_ok valueRead, bind_ok othersRead]
      rfl

/-- The reader behind a shape ends this way. -/
def Ends (shortRead : ShortRead) (data : Bytes) (rounds position : Nat) (ending : Ending) :
    Shape → Prop
  | .value => EndsIn (decodeWithin shortRead rounds) data position ending
  | .properties limit => EndsIn (readProperties shortRead rounds limit) data position ending

theorem endsIn_of_eq {α : Type} {reader other : Reader Halt α} {ending : Ending}
    (same : reader data position = other data next) (ended : EndsIn other data next ending) :
    EndsIn reader data position ending := by
  obtain ⟨halt, failed, shown⟩ := ended
  exact ⟨halt, same.trans failed, shown⟩

theorem ends_of_fails {shape : Shape} {ending : Ending}
    (failed : Fails shortRead data shape position ending) (within : position ≤ data.length)
    (enough : data.length < position + rounds) :
    Ends shortRead data rounds position ending shape := by
  induction failed generalizing rounds with
  | noMarker missing =>
      obtain ⟨rounds, rfl⟩ := exists_rounds (Nat.lt_succ_of_le within) enough
      rw [Ends, decodeWithin]
      exact (field_short UInt8.ofNat (by omega)).bind _
  | refused stands refused =>
      obtain ⟨rounds, rfl⟩ := exists_rounds (Nat.lt_succ_of_le within) enough
      exact decodeWithin_of_refused stands refused
  | @number position stands missing =>
      obtain ⟨rounds, rfl⟩ := exists_rounds (Nat.lt_succ_of_le within) enough
      have short : data.length < position + 1 + 8 := by omega
      apply endsIn_of_eq (decodeWithin_number stands)
      exact (field_short UInt64.ofNat short).bind _
  | @boolean position stands missing =>
      obtain ⟨rounds, rfl⟩ := exists_rounds (Nat.lt_succ_of_le within) enough
      have short : data.length < position + 1 + 1 := by omega
      apply endsIn_of_eq (decodeWithin_boolean stands)
      exact ((field_short UInt8.ofNat short).bind _).bind _
  | string stands failed =>
      obtain ⟨rounds, rfl⟩ := exists_rounds (Nat.lt_succ_of_le within) enough
      apply endsIn_of_eq (decodeWithin_string stands)
      exact (readString_of_fails failed).bind _
  | object stands failed ih =>
      obtain ⟨rounds, rfl⟩ := exists_rounds (Nat.lt_succ_of_le within) enough
      apply endsIn_of_eq (decodeWithin_object stands)
      exact (@ih rounds stands.le_length (by omega)).bind _
  | @ecmaLength position stands missing =>
      obtain ⟨rounds, rfl⟩ := exists_rounds (Nat.lt_succ_of_le within) enough
      have short : data.length < position + 1 + 4 := by omega
      apply endsIn_of_eq (decodeWithin_ecmaArray stands)
      exact (field_short UInt32.ofNat short).bind _
  | @ecmaArray position count ending stands failed ih =>
      obtain ⟨rounds, rfl⟩ := exists_rounds (Nat.lt_succ_of_le within) enough
      have present := stands.le_length
      simp only [List.length_cons, length_beU32] at present
      obtain ⟨marker, body⟩ := StandsAt.cons_iff.mp stands
      have length := (@reads_field _ shortRead _ _ _ (Reads.readU32 count)).at body
      rw [length_toBytesBE] at length
      apply endsIn_of_eq (decodeWithin_ecmaArray marker)
      apply EndsIn.andThen length
      exact (@ih rounds present (by omega)).bind _
  | longString stands failed =>
      obtain ⟨rounds, rfl⟩ := exists_rounds (Nat.lt_succ_of_le within) enough
      apply endsIn_of_eq (decodeWithin_longString stands)
      exact (readLongString_of_fails failed).bind _
  | key continued failed =>
      obtain ⟨rounds, rfl⟩ := exists_rounds (Nat.lt_succ_of_le within) enough
      apply endsIn_of_eq (readProperties_of_continues continued)
      exact (readString_of_fails failed).bind _
  | value continued keyed failed ih =>
      obtain ⟨rounds, rfl⟩ := exists_rounds (Nat.lt_succ_of_le within) enough
      have keyBounds := keyed.bounds
      apply endsIn_of_eq (readProperties_of_continues continued)
      apply EndsIn.andThen (readString_of_text keyed)
      exact (@ih rounds keyBounds.2 (by omega)).bind _
  | later continued keyed valued failed ih =>
      obtain ⟨rounds, rfl⟩ := exists_rounds (Nat.lt_succ_of_le within) enough
      have keyBounds := keyed.bounds
      have valueBounds := valued.bounds keyBounds.2
      simp only [Phrase.shape, Shape.least] at valueBounds
      have valueRead := @returns_of_spells shortRead _ _ _ rounds _ valued keyBounds.2 (by omega)
      apply endsIn_of_eq (readProperties_of_continues continued)
      apply EndsIn.andThen (readString_of_text keyed)
      apply EndsIn.andThen valueRead
      exact (@ih rounds valueBounds.2 (by omega)).bind _

end Values

/-! ## One of the two happens -/

section Total

variable (shortRead : ShortRead) (data : Bytes)

/-- The shape is read from the position, or reading it fails. -/
def Settled (shape : Shape) (position : Nat) : Prop :=
  (∃ phrase stop, phrase.shape = shape ∧ Spells data phrase position stop) ∨
    ∃ ending, Fails shortRead data shape position ending

variable {shortRead data} {position : Nat}

theorem Settled.value_cases (settled : Settled shortRead data .value position) :
    (∃ value stop, Spells data (.value value) position stop) ∨
      ∃ ending, Fails shortRead data .value position ending := by
  rcases settled with ⟨phrase, stop, same, spelled⟩ | failed
  · cases phrase with
    | value value => exact .inl ⟨value, stop, spelled⟩
    | properties limit properties => cases same
  · exact .inr failed

theorem Settled.properties_cases {limit : Option Nat}
    (settled : Settled shortRead data (.properties limit) position) :
    (∃ properties stop, Spells data (.properties limit properties) position stop) ∨
      ∃ ending, Fails shortRead data (.properties limit) position ending := by
  rcases settled with ⟨phrase, stop, same, spelled⟩ | failed
  · cases phrase with
    | value value => cases same
    | properties other properties =>
        cases same
        exact .inl ⟨properties, stop, spelled⟩
  · exact .inr failed

theorem closes_total (data : Bytes) (position : Nat) : ∃ stop, Closes data position stop := by
  by_cases present : StandsAt data position endMarker
  · exact ⟨_, .marked present⟩
  · exact ⟨_, .unmarked present⟩

theorem settled_number (stands : StandsAt data position [0x00]) :
    Settled shortRead data .value position := by
  rcases readUint_cases (ε := IoFault) 8 data (position + 1) with
    ⟨number, small, body⟩ | ⟨missing, _⟩
  · have same : (UInt64.ofNat number).toNat = number :=
      UInt64.toNat_ofNat_of_lt' (by simpa using small)
    rw [← same] at body
    exact .inl ⟨_, _, rfl, .number (StandsAt.cons_iff.mpr ⟨stands, body⟩)⟩
  · exact .inr ⟨_, .number stands missing⟩

theorem settled_boolean (stands : StandsAt data position [0x01]) :
    Settled shortRead data .value position := by
  by_cases present : position + 1 < data.length
  · obtain ⟨byte, body⟩ := StandsAt.exists_byte present
    exact .inl ⟨_, _, rfl, .boolean (StandsAt.cons_iff.mpr ⟨stands, body⟩)⟩
  · exact .inr ⟨_, .boolean stands (by omega)⟩

theorem settled_ecmaArray (stands : StandsAt data position [0x08])
    (behind : ∀ limit, position + 5 ≤ data.length →
      Settled shortRead data (.properties limit) (position + 5)) :
    Settled shortRead data .value position := by
  rcases readUint_cases (ε := IoFault) 4 data (position + 1) with
    ⟨count, small, body⟩ | ⟨missing, _⟩
  · have same : (UInt32.ofNat count).toNat = count :=
      UInt32.toNat_ofNat_of_lt' (by simpa using small)
    have present := body.le_length
    rw [length_toBytesBE] at present
    rw [← same] at body
    have whole := StandsAt.cons_iff.mpr ⟨stands, body⟩
    rcases (behind (some (UInt32.ofNat count).toNat) present).properties_cases with
      ⟨properties, middle, spelled⟩ | ⟨ending, failed⟩
    · obtain ⟨stop, closed⟩ := closes_total data middle
      exact .inl ⟨_, _, rfl, .ecmaArray whole spelled closed⟩
    · exact .inr ⟨ending, .ecmaArray whole failed⟩
  · exact .inr ⟨_, .ecmaLength stands missing⟩

/-- What a marker byte selects, when everything behind it is settled. -/
theorem settled_value (within : position < data.length)
    (behind : ∀ limit later, position < later → later ≤ data.length →
      Settled shortRead data (.properties limit) later) :
    Settled shortRead data .value position := by
  obtain ⟨byte, stands⟩ := StandsAt.exists_byte within
  by_cases refused : Refused byte
  · exact .inr ⟨_, .refused stands refused⟩
  · simp only [Refused, not_not, List.mem_cons, List.not_mem_nil, or_false] at refused
    rcases refused with rfl | rfl | rfl | rfl | rfl | rfl | rfl
    · exact settled_number stands
    · exact settled_boolean stands
    · rcases text_total shortRead data 2 (position + 1) with
        ⟨text, stop, spelled⟩ | ⟨ending, failed⟩
      · exact .inl ⟨_, stop, rfl, .string stands spelled⟩
      · exact .inr ⟨ending, .string stands failed⟩
    · rcases (behind none (position + 1) (Nat.lt_succ_self _) within).properties_cases with
        ⟨properties, stop, spelled⟩ | ⟨ending, failed⟩
      · exact .inl ⟨_, stop, rfl, .object stands spelled⟩
      · exact .inr ⟨ending, .object stands failed⟩
    · exact .inl ⟨_, _, rfl, .null stands⟩
    · exact settled_ecmaArray stands fun limit present => behind limit _ (by omega) present
    · rcases text_total shortRead data 4 (position + 1) with
        ⟨text, stop, spelled⟩ | ⟨ending, failed⟩
      · exact .inl ⟨_, stop, rfl, .longString stands spelled⟩
      · exact .inr ⟨ending, .longString stands failed⟩

/-- A property that is expected, when everything behind its key is settled. -/
theorem settled_property {limit remaining : Option Nat}
    (continued : Continues data position limit remaining)
    (behind : ∀ shape later, position < later → later ≤ data.length →
      Settled shortRead data shape later) :
    Settled shortRead data (.properties limit) position := by
  rcases text_total shortRead data 2 position with ⟨key, middle, keyed⟩ | ⟨ending, failed⟩
  · have keyBounds := keyed.bounds
    rcases (behind .value middle (by omega) keyBounds.2).value_cases with
      ⟨value, next, valued⟩ | ⟨ending, failed⟩
    · have valueBounds := valued.bounds keyBounds.2
      simp only [Phrase.shape, Shape.least] at valueBounds
      rcases (behind (.properties remaining) next (by omega) valueBounds.2).properties_cases with
        ⟨properties, stop, others⟩ | ⟨ending, failed⟩
      · exact .inl ⟨_, stop, rfl, .property continued keyed valued others⟩
      · exact .inr ⟨ending, .later continued keyed valued failed⟩
    · exact .inr ⟨ending, .value continued keyed failed⟩
  · exact .inr ⟨ending, .key continued failed⟩

/-- Every position is settled.  The induction is on the bytes that remain. -/
theorem settled (shortRead : ShortRead) (data : Bytes) (shape : Shape) (position : Nat) :
    Settled shortRead data shape position := by
  induction remaining : data.length - position using Nat.strongRecOn generalizing position shape with
  | ind count ih =>
      have behind : ∀ shape later, position < later → later ≤ data.length →
          Settled shortRead data shape later := fun shape later after within =>
        ih (data.length - later) (by omega) shape later rfl
      cases shape with
      | value =>
          by_cases within : position < data.length
          · exact settled_value within fun limit => behind (.properties limit)
          · exact .inr ⟨_, .noMarker (Nat.le_of_not_lt within)⟩
      | properties limit =>
          cases limit with
          | none =>
              by_cases present : StandsAt data position endMarker
              · exact .inl ⟨_, _, rfl, .ended present⟩
              · exact settled_property (.unended present) behind
          | some count =>
              cases count with
              | zero => exact .inl ⟨_, _, rfl, .complete⟩
              | succ count => exact settled_property .counted behind

end Total

/-! ## The operations of the decoder -/

section Operations

variable {shortRead : ShortRead} {data : Bytes} {position stop rounds : Nat} {ending : Ending}
  {value : Amf0Value}

theorem Spells.lt (spelled : Spells data (.value value) position stop)
    (within : position ≤ data.length) : position < data.length := by
  have bounds := spelled.bounds within
  simp only [Phrase.shape, Shape.least] at bounds
  omega

theorem decode_of_spells (spelled : Spells data (.value value) position stop)
    (within : position ≤ data.length) :
    decode shortRead data position = .ok (value, stop) :=
  returns_of_spells spelled within (by omega)

theorem decode_of_fails (failed : Fails shortRead data .value position ending)
    (within : position ≤ data.length) : EndsIn (decode shortRead) data position ending :=
  ends_of_fails failed within (by omega)

theorem decodeWithType_of_marker {marker : Amf0Marker}
    (stands : StandsAt data position [marker.byte]) :
    decodeWithType shortRead marker data position = decode shortRead data position := by
  have known := Amf0Marker.fromPrimitive_byte_iff.mpr (Eq.refl marker.byte)
  have looked : (tell : Reader Halt Nat) data position = .ok (position, position) := rfl
  have back : seekTo position data (position + 1) = .ok ((), position) := rfl
  rw [decodeWithType, bind_ok looked, bind_ok (field_marker stands), bind_ok back, known]
  exact congrFun (congrFun (if_neg fun different => different rfl) data) position

/-- Another marker is refused with the cursor still in front of it. -/
theorem decodeWithType_of_other {marker : Amf0Marker} {byte : UInt8}
    (stands : StandsAt data position [byte]) (other : byte ≠ marker.byte) :
    EndsIn (decodeWithType shortRead marker) data position (.rejected position) := by
  have looked : (tell : Reader Halt Nat) data position = .ok (position, position) := rfl
  have back : seekTo position data (position + 1) = .ok ((), position) := rfl
  apply EndsIn.andThen looked
  apply EndsIn.andThen (field_marker stands)
  apply EndsIn.andThen back
  cases known : Amf0Marker.fromPrimitive byte.toNat with
  | none => exact EndsIn.raise _
  | some found =>
      have different : found ≠ marker := by
        rintro rfl
        exact other (Amf0Marker.fromPrimitive_byte_iff.mp known)
      dsimp only
      rw [if_pos different]
      exact EndsIn.raise _

theorem decodeWithType_of_end {marker : Amf0Marker} (missing : data.length ≤ position) :
    EndsIn (decodeWithType shortRead marker) data position
      (.rejected (shortRead.position data position)) := by
  have looked : (tell : Reader Halt Nat) data position = .ok (position, position) := rfl
  have short : data.length < position + 1 := Nat.lt_succ_of_le missing
  apply EndsIn.andThen looked
  exact (field_short UInt8.ofNat short).bind _

theorem isEmpty_iff : isEmpty data position = true ↔ data.length = position := by
  rw [isEmpty, beq_iff_eq]

theorem decodeAllWithin_end (rounds : Nat) :
    decodeAllWithin shortRead rounds data data.length = .ok ([], data.length) := by
  cases rounds with
  | zero => exact if_pos (isEmpty_iff.mpr rfl)
  | succ rounds => exact if_pos (isEmpty_iff.mpr rfl)

theorem decodeAllWithin_more (remaining : position < data.length) :
    decodeAllWithin shortRead (rounds + 1) data position =
      (do
        let value ← decode shortRead
        let values ← decodeAllWithin shortRead rounds
        return value :: values : Reader Halt (List Amf0Value)) data position :=
  if_neg fun ended => by
    have reached := isEmpty_iff.mp ended
    omega

theorem decodeAllWithin_of_sequence {values : List Amf0Value}
    (sequence : Sequence data values position) (within : position ≤ data.length)
    (enough : data.length ≤ position + rounds) :
    decodeAllWithin shortRead rounds data position = .ok (values, data.length) := by
  induction sequence generalizing rounds with
  | nil => exact decodeAllWithin_end rounds
  | cons spelled more ih =>
      have bounds := spelled.bounds within
      simp only [Phrase.shape, Shape.least] at bounds
      obtain ⟨rounds, rfl⟩ : ∃ fewer, rounds = fewer + 1 := ⟨rounds - 1, by omega⟩
      have rest := @ih rounds bounds.2 (by omega)
      rw [decodeAllWithin_more (spelled.lt within), bind_ok (decode_of_spells spelled within),
        bind_ok rest]
      rfl

theorem decodeAllWithin_of_fails (failed : SequenceFails shortRead data position ending)
    (within : position ≤ data.length) (enough : data.length ≤ position + rounds) :
    EndsIn (decodeAllWithin shortRead rounds) data position ending := by
  induction failed generalizing rounds with
  | here remaining failed =>
      obtain ⟨rounds, rfl⟩ : ∃ fewer, rounds = fewer + 1 := ⟨rounds - 1, by omega⟩
      apply endsIn_of_eq (decodeAllWithin_more remaining)
      exact (decode_of_fails failed within).bind _
  | later spelled failed ih =>
      have bounds := spelled.bounds within
      simp only [Phrase.shape, Shape.least] at bounds
      obtain ⟨rounds, rfl⟩ : ∃ fewer, rounds = fewer + 1 := ⟨rounds - 1, by omega⟩
      apply endsIn_of_eq (decodeAllWithin_more (spelled.lt within))
      apply EndsIn.andThen (decode_of_spells spelled within)
      exact (@ih rounds bounds.2 (by omega)).bind _

theorem decodeAll_of_sequence {values : List Amf0Value}
    (sequence : Sequence data values position) (within : position ≤ data.length) :
    decodeAll shortRead data position = .ok (values, data.length) :=
  decodeAllWithin_of_sequence sequence within (Nat.le_add_left _ _)

theorem decodeAll_of_fails (failed : SequenceFails shortRead data position ending)
    (within : position ≤ data.length) : EndsIn (decodeAll shortRead) data position ending :=
  decodeAllWithin_of_fails failed within (Nat.le_add_left _ _)

/-- From every position inside the slice the values reach its end or fail. -/
theorem sequence_total (shortRead : ShortRead) (within : position ≤ data.length) :
    (∃ values, Sequence data values position) ∨
      ∃ ending, SequenceFails shortRead data position ending := by
  induction remaining : data.length - position using Nat.strongRecOn generalizing position with
  | ind count ih =>
      by_cases ended : position = data.length
      · subst ended
        exact .inl ⟨[], .nil⟩
      · rcases (settled shortRead data .value position).value_cases with
          ⟨value, middle, spelled⟩ | ⟨ending, failed⟩
        · have bounds := spelled.bounds within
          simp only [Phrase.shape, Shape.least] at bounds
          rcases ih (data.length - middle) (by omega) bounds.2 rfl with
            ⟨values, more⟩ | ⟨ending, failed⟩
          · exact .inl ⟨value :: values, .cons spelled more⟩
          · exact .inr ⟨ending, .later spelled failed⟩
        · exact .inr ⟨ending, .here (by omega) failed⟩

/-! ## What a success says -/

theorem decode_eq_ok_iff (within : position ≤ data.length) :
    decode shortRead data position = .ok (value, stop) ↔
      Spells data (.value value) position stop := by
  constructor
  · intro read
    rcases (settled shortRead data .value position).value_cases with
      ⟨found, middle, spelled⟩ | ⟨ending, failed⟩
    · have same := (decode_of_spells spelled within).symm.trans read
      cases same
      exact spelled
    · exact absurd read (decode_of_fails failed within).not_ok
  · intro spelled
    exact decode_of_spells spelled within

theorem decodeWithType_eq_ok_iff {marker : Amf0Marker} (within : position ≤ data.length) :
    decodeWithType shortRead marker data position = .ok (value, stop) ↔
      StandsAt data position [marker.byte] ∧ Spells data (.value value) position stop := by
  by_cases remaining : position < data.length
  · obtain ⟨byte, stands⟩ := StandsAt.exists_byte remaining
    by_cases same : byte = marker.byte
    · subst same
      rw [decodeWithType_of_marker stands, decode_eq_ok_iff within]
      exact ⟨fun spelled => ⟨stands, spelled⟩, fun both => both.2⟩
    · refine ⟨fun read => absurd read (decodeWithType_of_other stands same).not_ok, fun both => ?_⟩
      exact absurd (List.cons.inj (stands.unique both.1 rfl)).1 same
  · refine ⟨fun read => ?_, fun both => absurd (both.2.lt within) remaining⟩
    exact absurd read (decodeWithType_of_end (Nat.le_of_not_lt remaining)).not_ok

theorem decodeAll_eq_ok_iff {values : List Amf0Value} (within : position ≤ data.length) :
    decodeAll shortRead data position = .ok (values, stop) ↔
      Sequence data values position ∧ stop = data.length := by
  constructor
  · intro read
    rcases sequence_total shortRead within with ⟨found, sequence⟩ | ⟨ending, failed⟩
    · have same := (decodeAll_of_sequence sequence within).symm.trans read
      cases same
      exact ⟨sequence, rfl⟩
    · exact absurd read (decodeAll_of_fails failed within).not_ok
  · rintro ⟨sequence, rfl⟩
    exact decodeAll_of_sequence sequence within

theorem spells_iff_of_null (stands : StandsAt data position [Amf0Marker.null.byte]) :
    Spells data (.value value) position stop ↔ value = .null ∧ stop = position + 1 := by
  have present := stands.le_length
  simp only [List.length_singleton] at present
  have within : position ≤ data.length := by omega
  have read := @decode_of_spells .stays _ _ _ _ (Spells.null stands) within
  constructor
  · intro spelled
    have same := read.symm.trans (decode_of_spells spelled within)
    cases same
    exact ⟨rfl, rfl⟩
  · rintro ⟨rfl, rfl⟩
    exact .null stands

end Operations

end ScuffleVideo.Amf0
