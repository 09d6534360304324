import ScuffleVideo.Mp4.TableRoundTrip

/-!
# Text fields

The name of a handler and the location of a data reference are written in UTF-8 with a
zero byte behind them, and read byte by byte, each byte as a character of its own.
-/

namespace ScuffleVideo.Mp4

open Wire Wire.Reader

/-! ## Handlers -/

namespace HandlerType

/-- A type that is not the code of one of the others. -/
def Canonical : HandlerType → Prop
  | .unknown bytes =>
      bytes ≠ toBytes .vide ∧ bytes ≠ toBytes .soun ∧ bytes ≠ toBytes .hint ∧
        bytes ≠ toBytes .metadata
  | _ => True

theorem ofBytes_toBytes_iff (handlerType : HandlerType) :
    ofBytes handlerType.toBytes = handlerType ↔ handlerType.Canonical := by
  cases handlerType with
  | unknown bytes =>
      change ofBytes bytes = .unknown bytes ↔ _ ∧ _ ∧ _ ∧ _
      unfold ofBytes
      split_ifs <;> simp_all
  | _ => exact ⟨fun _ => trivial, fun _ => by decide⟩

end HandlerType

namespace Hdlr

theorem flags_of_valid {hdlr : Hdlr} (valid : hdlr.validate = .ok ()) : hdlr.header.flags = 0 := by
  rw [validate, andThen_eq_ok, FullBoxHeader.checkPlain_eq_ok] at valid
  exact valid.1.2

theorem read_reads {hdlr : Hdlr} (plain : hdlr.header.flags = 0)
    (free : ∀ char ∈ hdlr.name.toList, char.toNat ≠ 0) (header : BoxHeader) :
    Reads (read header) (hdlr.header.bytes ++ hdlr.body)
      ⟨{ hdlr.header with header := header }, hdlr.preDefined, .ofBytes hdlr.handlerType.toBytes,
        hdlr.reserved, ofByteChars (asBytes hdlr.name)⟩ := by
  have head := @FullBoxHeader.demux_reads { hdlr.header with header := header }
    (by rw [plain]; decide)
  apply head.bind
  apply (Reads.readU32 hdlr.preDefined).bind
  apply (Reads.readFourCC hdlr.handlerType.toBytes).bind
  apply (Reads.readArray fun number _ => Reads.readU32 number).bind
  apply (readTerminated_reads free).finish
  exact Reads.pure _

end Hdlr

/-! ## Locations -/

namespace Url

/-- The location is there exactly when no flag is set. -/
theorem location_of_valid {url : Url} (valid : url.validate = .ok ()) :
    (url.header.flags == 0) = url.location.isSome := by
  rw [validate, andThen_eq_ok, andThen_eq_ok, refuse_eq_ok, refuse_eq_ok, refuse_eq_ok] at valid
  obtain ⟨_, surplus, missing⟩ := valid
  cases zero : url.header.flags == 0 <;> cases location : url.location <;>
    simp_all

def payload (url : Url) : Bytes :=
  url.header.bytes ++ optional (fun location => asBytes location ++ [0]) url.location

theorem read_reads {url : Url} (valid : url.validate = .ok ())
    (small : url.header.flags.toNat < 2 ^ 24)
    (free : ∀ location, url.location = some location → ∀ char ∈ location.toList, char.toNat ≠ 0)
    (header : BoxHeader) :
    Reads (read header) url.payload
      ⟨{ url.header with header := header },
        url.location.map fun location => ofByteChars (asBytes location)⟩ := by
  have head := @FullBoxHeader.demux_reads { url.header with header := header } small
  have shown := location_of_valid valid
  unfold payload
  apply head.bind
  rw [shown]
  cases found : url.location with
  | none => exact (Reads.pure none).finish (Reads.pure _)
  | some location =>
      apply ((readTerminated_reads (free location found)).map some).finish
      exact Reads.pure _

end Url

/-! ## Boxes with a text -/

inductive TextBox where
  | hdlr (box : Hdlr)
  | url (box : Url)

namespace TextBox

def toDynBox : TextBox → DynBox
  | .hdlr box => .hdlr box
  | .url box => .url box

def kind : TextBox → BoxKind
  | .hdlr _ => .hdlr
  | .url _ => .url

def header : TextBox → FullBoxHeader
  | .hdlr box => box.header
  | .url box => box.header

def validate : TextBox → Except IoFault Unit
  | .hdlr box => box.validate
  | .url box => box.validate

/-- The text of the box, unless it has none. -/
def text : TextBox → Option String
  | .hdlr box => some box.name
  | .url box => box.location

/-- The handler type of the box, if it has one, is not the code of another. -/
def CanonicalType : TextBox → Prop
  | .hdlr box => box.handlerType.Canonical
  | .url _ => True

/-- What is read from the bytes of a box with a text without zeros. -/
def reread : TextBox → DynBox
  | .hdlr box => .hdlr ⟨{ box.header with header := ⟨Hdlr.fourCC⟩ }, box.preDefined,
      .ofBytes box.handlerType.toBytes, box.reserved, ofByteChars (asBytes box.name)⟩
  | .url box => .url ⟨{ box.header with header := ⟨Url.name⟩ },
      box.location.map fun location => ofByteChars (asBytes location)⟩

theorem header_eq_iff (header : FullBoxHeader) (name : FourCC) :
    ({ header with header := ⟨name⟩ } : FullBoxHeader) = header ↔ header.header.boxType = name := by
  constructor
  · intro same
    exact (congrArg (fun header : FullBoxHeader => header.header.boxType) same).symm
  · rintro rfl
    rfl

/-- The box is read as it is exactly when its type and its text come back. -/
theorem reread_eq_iff (box : TextBox) :
    box.reread = box.toDynBox ↔
      box.header.header.boxType = box.kind.name ∧ box.CanonicalType ∧
        ∀ text, box.text = some text → ∀ char ∈ text.toList, char.toNat < 128 := by
  cases box with
  | hdlr hdlr =>
      change DynBox.hdlr _ = .hdlr hdlr ↔ _ ∧ hdlr.handlerType.Canonical ∧ _
      rw [DynBox.hdlr.injEq, ← HandlerType.ofBytes_toBytes_iff]
      change _ ↔ hdlr.header.header.boxType = Hdlr.fourCC ∧ _ ∧
        ∀ text, some hdlr.name = some text → _
      rw [← header_eq_iff]
      simp only [Option.some.injEq, forall_eq', ← ofByteChars_asBytes_iff]
      cases hdlr
      simp only [Hdlr.mk.injEq, true_and]
  | url url =>
      change DynBox.url _ = .url url ↔ _ ∧ True ∧ _
      rw [DynBox.url.injEq, true_and]
      change _ ↔ url.header.header.boxType = Url.name ∧ ∀ text, url.location = some text → _
      rw [← header_eq_iff]
      simp only [← ofByteChars_asBytes_iff]
      cases url with
      | mk header location =>
          rw [Url.mk.injEq]
          cases location <;> simp

/-- The flags of what is written fit their three bytes. -/
theorem small_of_mux {box : TextBox} {bytes : Bytes} (written : box.toDynBox.mux = .ok bytes) :
    box.header.flags.toNat < 2 ^ 24 := by
  cases box with
  | hdlr hdlr =>
      obtain ⟨payload, done, _⟩ := written_of_mux (β := Hdlr) written
      exact FullBoxHeader.small_of_headed done.written
  | url url =>
      obtain ⟨payload, done, _⟩ := written_of_mux (β := Url) written
      exact FullBoxHeader.small_of_headed done.written

/-- An accepted box is written as soon as its flags fit. -/
theorem exists_mux {box : TextBox} (valid : box.validate = .ok ())
    (small : box.header.flags.toNat < 2 ^ 24) : ∃ bytes, box.toDynBox.mux = .ok bytes := by
  cases box with
  | hdlr hdlr =>
      have header : hdlr.header.mux = .ok hdlr.header.bytes := FullBoxHeader.mux_eq_ok small
      have written : BoxType.primitiveMux hdlr = .ok (hdlr.header.bytes ++ hdlr.body) := by
        change hdlr.primitiveMux = _
        rw [Hdlr.primitiveMux, header]
        rfl
      exact ⟨_, Written.mux ⟨valid, written, (ExactSize.exact hdlr _ valid written).symm⟩⟩
  | url url =>
      have header : url.header.mux = .ok url.header.bytes := FullBoxHeader.mux_eq_ok small
      have written : BoxType.primitiveMux url = .ok url.payload := by
        change url.primitiveMux = _
        rw [Url.primitiveMux, header]
        rfl
      exact ⟨_, Written.mux ⟨valid, written, (ExactSize.exact url _ valid written).symm⟩⟩

/-- A box with a text without zeros that is written is read as far as bytes are
characters. -/
theorem demux_written (checks : OverflowChecks) {box : TextBox} {bytes : Bytes}
    (written : box.toDynBox.mux = .ok bytes)
    (free : ∀ text, box.text = some text → ∀ char ∈ text.toList, char.toNat ≠ 0)
    (short : ∀ text, box.text = some text → (asBytes text).length < 2 ^ 63) :
    DynBox.demux checks bytes 0 = .ok (box.reread, bytes.length) := by
  cases box with
  | hdlr hdlr =>
      obtain ⟨payload, done, rfl⟩ := written_of_mux (β := Hdlr) written
      have plain := Hdlr.flags_of_valid done.valid
      have bytes : payload = hdlr.header.bytes ++ hdlr.body := by
        have same := done.written
        change hdlr.primitiveMux = _ at same
        rw [Hdlr.primitiveMux, FullBoxHeader.mux_eq_ok (by rw [plain]; decide)] at same
        exact (Except.ok.inj same).symm
      have room : payload.length + 16 < 2 ^ 64 := by
        have most := short _ rfl
        have sized := done.sized
        change hdlr.primitiveSize = _ at sized
        unfold Hdlr.primitiveSize FullBoxHeader.size at sized
        omega
      subst bytes
      have framed := DynBox.demux_frame_plain checks .hdlr (fun _ _ _ => rfl) room
      exact framed.trans (congrArg (Except.map _) (Hdlr.read_reads plain (free _ rfl) _).parse)
  | url url =>
      obtain ⟨payload, done, rfl⟩ := written_of_mux (β := Url) written
      have small := FullBoxHeader.small_of_headed done.written
      have bytes : payload = url.payload := by
        have same := done.written
        change url.primitiveMux = _ at same
        rw [Url.primitiveMux, FullBoxHeader.mux_eq_ok small] at same
        exact (Except.ok.inj same).symm
      have room : payload.length + 16 < 2 ^ 64 := by
        have sized := done.sized
        change url.primitiveSize = _ at sized
        unfold Url.primitiveSize FullBoxHeader.size at sized
        cases location : url.location with
        | none =>
            rw [location] at sized
            dsimp only at sized
            omega
        | some text =>
            have most := short text location
            rw [location] at sized
            dsimp only at sized
            omega
      subst bytes
      have framed := DynBox.demux_frame_plain checks .url (fun _ _ _ => rfl) room
      exact framed.trans
        (congrArg (Except.map _) (Url.read_reads done.valid small free _).parse)

/-- An accepted box with a text is written, and read from what it is written as, exactly when
its flags fit their three bytes and the text is ASCII.  A handler type that is spelled out
although it has a name, and a header of another type, do not come back either. -/
theorem text_reads_back_iff (checks : OverflowChecks) (box : TextBox)
    (valid : box.validate = .ok ())
    (free : ∀ text, box.text = some text → ∀ char ∈ text.toList, char.toNat ≠ 0)
    (short : ∀ text, box.text = some text → (asBytes text).length < 2 ^ 63) :
    (∃ bytes, box.toDynBox.mux = .ok bytes ∧
      DynBox.demux checks bytes 0 = .ok (box.toDynBox, bytes.length)) ↔
      box.header.flags.toNat < 2 ^ 24 ∧ box.header.header.boxType = box.kind.name ∧
        box.CanonicalType ∧ ∀ text, box.text = some text → ∀ char ∈ text.toList, char.toNat < 128 := by
  rw [← reread_eq_iff]
  constructor
  · rintro ⟨bytes, written, read⟩
    rw [demux_written checks written free short, Except.ok.injEq, Prod.mk.injEq] at read
    exact ⟨small_of_mux written, read.1⟩
  · rintro ⟨small, same⟩
    obtain ⟨bytes, written⟩ := exists_mux valid small
    refine ⟨bytes, written, ?_⟩
    rw [demux_written checks written free short, same]

/-- A handler whose name is a single character. -/
def handlerOf (char : Char) : TextBox := .hdlr (Hdlr.new .vide (String.singleton char))

/-- The box of a video handler with so many bytes of text. -/
def handlerBytes (text : Bytes) : Bytes :=
  frame Hdlr.fourCC ([0, 0, 0, 0, 0, 0, 0, 0] ++ [118, 105, 100, 101] ++ List.replicate 12 0 ++
    (text ++ [0]))

theorem eq_of_mem_handlerOf {char other : Char} {text : String}
    (found : (handlerOf char).text = some text) (member : other ∈ text.toList) : other = char := by
  cases found
  have single : other ∈ (String.singleton char).toList := member
  rw [String.toList_singleton] at single
  exact List.mem_singleton.mp single

theorem ascii_name_reads_back :
    (handlerOf 'V').validate = .ok () ∧ (handlerOf 'V').toDynBox.mux = .ok (handlerBytes [86]) ∧
      DynBox.demux OverflowChecks.on (handlerBytes [86]) 0 = .ok ((handlerOf 'V').toDynBox, 34) := by
  have valid : (handlerOf 'V').validate = .ok () := by rfl
  have written : (handlerOf 'V').toDynBox.mux = .ok (handlerBytes [86]) := by rfl
  have back := (text_reads_back_iff .on (handlerOf 'V') valid ?_ ?_).mpr
    ⟨by decide, rfl, trivial, ?_⟩
  · obtain ⟨bytes, same, read⟩ := back
    rw [written] at same
    cases same
    exact ⟨valid, written, read⟩
  · intro text found char member
    rw [eq_of_mem_handlerOf found member]
    decide
  · intro text found
    cases found
    decide
  · intro text found char member
    rw [eq_of_mem_handlerOf found member]
    decide

/-- The two bytes of an accented letter come back as two letters. -/
theorem accented_name_changed :
    (handlerOf 'é').toDynBox.mux = .ok (handlerBytes [195, 169]) ∧
      DynBox.demux OverflowChecks.on (handlerBytes [195, 169]) 0 =
        .ok (.hdlr (Hdlr.new .vide "Ã©"), 35) ∧
      DynBox.hdlr (Hdlr.new .vide "Ã©") ≠ (handlerOf 'é').toDynBox := by
  have written : (handlerOf 'é').toDynBox.mux = .ok (handlerBytes [195, 169]) := by rfl
  refine ⟨written, (demux_written .on written ?_ ?_).trans rfl, fun same => ?_⟩
  · intro text found char member
    rw [eq_of_mem_handlerOf found member]
    decide
  · intro text found
    cases found
    decide
  · have names := congrArg Hdlr.name (DynBox.hdlr.inj same)
    revert names
    decide

end TextBox

end ScuffleVideo.Mp4
