import ScuffleVideo.Mp4.DynBox

/-!
# Tables that are written and read

A box without boxes inside it is read from its frame exactly as its type reads the
payload.  Three tables do not give back what they were read from.  The large chunk
offsets are read and written in 32 bits.  The number of samples in a size table and
in a table of padding bits is not kept: it is the length of a list that is empty for
a common size, and that has one byte for two samples.
-/

namespace ScuffleVideo.Mp4

open Wire Wire.Reader

/-! ## Written boxes -/

section Boxes

variable {β : Type} [BoxType β] {box : β} {bytes : Bytes}

/-- What `mux` writes is the frame of a payload. -/
theorem written_of_mux [exactSize : ExactSize β] (done : BoxType.mux box = .ok bytes) :
    ∃ payload, Written box payload ∧ bytes = frame (BoxType.name β) payload := by
  obtain ⟨_, valid, done⟩ := sequence_eq_ok_iff.mp done
  obtain ⟨payload, written, same⟩ := sequence_eq_ok_iff.mp done
  cases same
  have sized := exactSize.exact box payload valid written
  refine ⟨payload, ⟨valid, written, sized.symm⟩, ?_⟩
  rw [BoxType.size, ← sized]
  rfl

/-- A frame determines its payload. -/
theorem frame_injective {name : FourCC} {first second : Bytes}
    (same : frame name first = frame name second) : first = second := by
  have sizes := congrArg List.length same
  rw [length_frame, length_frame] at sizes
  have lengths : first.length = second.length := by
    unfold boxSize at sizes
    split at sizes <;> split at sizes <;> omega
  exact List.append_inj_right' same lengths

/-- The bytes that `mux` writes are read as the box. -/
def ReadsBack (checks : OverflowChecks) (inject : β → DynBox) (box : β) : Prop :=
  ∀ bytes, BoxType.mux box = .ok bytes →
    DynBox.demux checks bytes 0 = .ok (inject box, bytes.length)

end Boxes

/-! ## Large chunk offsets -/

namespace Co64

/-- The payload that the standard gives a list of offsets: their number, and 64 bits for
each of them. -/
def standardPayload (offsets : List UInt64) : Bytes :=
  (FullBoxHeader.new name 0 0).bytes ++
    (beU32 (UInt32.ofNat offsets.length) ++ offsets.flatMap beU64)

/-- The upper and the lower half of an offset. -/
def halves (offset : UInt64) : List UInt32 := [(offset >>> 32).toUInt32, offset.toUInt32]

/-- What the reader makes of the bytes of 64-bit offsets: as many halves as there are
offsets. -/
def misread (offsets : List UInt64) : List UInt32 :=
  (offsets.flatMap halves).take offsets.length

theorem toNat_upper (offset : UInt64) :
    (offset >>> 32).toUInt32.toNat = offset.toNat / 2 ^ 32 := by
  have bound := offset.toNat_lt
  rw [UInt64.toNat_toUInt32, UInt64.toNat_shiftRight, Nat.shiftRight_eq_div_pow]
  change offset.toNat / 2 ^ 32 % 2 ^ 32 = _
  omega

theorem toBytesBE_add (width more number : Nat) :
    toBytesBE (width + more) number =
      toBytesBE width (number / 256 ^ more) ++ toBytesBE more number := by
  induction more generalizing number with
  | zero => simp [toBytesBE]
  | succ more ih =>
      rw [← Nat.add_assoc, toBytesBE, toBytesBE, ih, Nat.div_div_eq_div_mul, List.append_assoc,
        Nat.pow_succ, Nat.mul_comm 256]

theorem toBytesBE_mod (width number : Nat) :
    toBytesBE width (number % 256 ^ width) = toBytesBE width number := by
  have length := length_toBytesBE width number
  have same := toBytesBE_ofBytesBE (toBytesBE width number)
  rwa [length, ofBytesBE_toBytesBE] at same

/-- 64 bits on the wire are two fields of 32. -/
theorem beU64_eq (offset : UInt64) : beU64 offset = (halves offset).flatMap beU32 := by
  have lower : offset.toUInt32.toNat = offset.toNat % 256 ^ 4 := UInt64.toNat_toUInt32 offset
  rw [halves, List.flatMap_cons, List.flatMap_singleton, beU64, beU32, beU32, toNat_upper, lower,
    toBytesBE_mod]
  exact toBytesBE_add 4 4 offset.toNat

theorem flatMap_beU64 (offsets : List UInt64) :
    offsets.flatMap beU64 = (offsets.flatMap halves).flatMap beU32 := by
  rw [List.flatMap_assoc]
  exact congrArg (fun encode => offsets.flatMap encode) (funext beU64_eq)

theorem length_flatMap_halves (offsets : List UInt64) :
    (offsets.flatMap halves).length = 2 * offsets.length := by
  induction offsets with
  | nil => rfl
  | cons offset offsets ih =>
      rw [List.flatMap_cons, List.length_append, ih, List.length_cons]
      change 2 + _ = _
      omega

theorem length_misread (offsets : List UInt64) : (misread offsets).length = offsets.length := by
  rw [misread, List.length_take, length_flatMap_halves]
  omega

theorem demux_standardPayload (checks : OverflowChecks) {offsets : List UInt64}
    (countable : offsets.length < 2 ^ 32) :
    (BoxType.demux checks ⟨name⟩ (standardPayload offsets) : Except IoFault Co64) =
      .ok ⟨.new name 0 0, misread offsets⟩ := by
  have few : (misread offsets).length < 2 ^ 32 := by
    rw [length_misread]
    exact countable
  have table := @readTable_reads UInt32 (.new name 0 0) (fun _ => readU32) beU32
    (misread offsets) (by decide) few fun entry _ => Reads.readU32 entry
  have read := table.map fun pair => (⟨pair.1, pair.2⟩ : Co64)
  have split : standardPayload offsets =
      ((FullBoxHeader.new name 0 0).bytes ++ (beU32 (UInt32.ofNat (misread offsets).length) ++
        (misread offsets).flatMap beU32)) ++
        ((offsets.flatMap halves).drop offsets.length).flatMap beU32 := by
    rw [standardPayload, flatMap_beU64, length_misread, List.append_assoc, List.append_assoc,
      misread, ← List.flatMap_append, List.take_append_drop]
  rw [split]
  exact read.parse_append _

/-- Half a number of 64 bits, taken for the whole, is the number only at zero. -/
theorem eq_zero_of_upper {offset : UInt64} (same : (offset >>> 32).toUInt32.toUInt64 = offset) :
    offset = 0 := by
  have value := congrArg UInt64.toNat same
  rw [UInt32.toNat_toUInt64, toNat_upper] at value
  apply UInt64.toNat_inj.mp
  rw [UInt64.toNat_zero]
  omega

theorem getElem?_flatMap_halves (offsets : List UInt64) (place : Nat) :
    (offsets.flatMap halves)[place]? = offsets[place / 2]?.map fun offset : UInt64 =>
      if place % 2 = 0 then (offset >>> 32).toUInt32 else offset.toUInt32 := by
  induction offsets generalizing place with
  | nil => rfl
  | cons offset offsets ih =>
      rw [List.flatMap_cons, halves]
      match place with
      | 0 => rfl
      | 1 => rfl
      | place + 2 =>
          have half : (place + 2) / 2 = place / 2 + 1 := by omega
          have parity : (place + 2) % 2 = place % 2 := by omega
          rw [half, parity, List.getElem?_cons_succ, ← ih place]
          rfl

/-- Every offset is the half of one that stands at half its place, so that the first is
zero and with it all the others. -/
theorem eq_zero_of_misread {offsets : List UInt64}
    (same : (misread offsets).map UInt32.toUInt64 = offsets) (place : Nat) {offset : UInt64}
    (found : offsets[place]? = some offset) : offset = 0 := by
  induction place using Nat.strongRecOn generalizing offset with
  | ind place ih =>
      have within : place < offsets.length := (List.getElem?_eq_some_iff.mp found).1
      obtain ⟨whole, source⟩ : ∃ whole, offsets[place / 2]? = some whole :=
        ⟨_, List.getElem?_eq_getElem (Nat.lt_of_le_of_lt (Nat.div_le_self place 2) within)⟩
      have read : ((misread offsets).map UInt32.toUInt64)[place]? = some offset := by
        rw [same, found]
      rw [List.getElem?_map, misread, List.getElem?_take_of_lt within, getElem?_flatMap_halves,
        source] at read
      simp only [Option.map_some, Option.some.injEq] at read
      by_cases first : place = 0
      · subst first
        cases source.symm.trans found
        exact eq_zero_of_upper read
      · rw [ih (place / 2) (by omega) source] at read
        rw [← read]
        split <;> rfl

theorem misread_eq_iff (offsets : List UInt64) :
    (misread offsets).map UInt32.toUInt64 = offsets ↔ ∀ offset ∈ offsets, offset = 0 := by
  constructor
  · intro same offset member
    obtain ⟨place, found⟩ := List.mem_iff_getElem?.mp member
    exact eq_zero_of_misread same place found
  · intro zeros
    have plain : offsets = List.replicate offsets.length 0 := List.eq_replicate_of_mem zeros
    have both : ∀ count, (List.replicate count (0 : UInt64)).flatMap halves =
        List.replicate (2 * count) 0 := by
      intro count
      induction count with
      | zero => rfl
      | succ count ih =>
          rw [List.replicate_succ, List.flatMap_cons, ih, Nat.mul_succ, Nat.add_comm,
            ← List.replicate_append_replicate]
          rfl
    rw [plain, misread, List.length_replicate, both, List.take_replicate, List.map_replicate,
      Nat.min_eq_left (by omega)]
    rfl

/-! ### Writing and reading -/

theorem validate_eq_ok {co64 : Co64} :
    co64.validate = .ok () ↔ co64.header.flags = 0 ∧ co64.header.version = 0 := by
  rw [validate, andThen_eq_ok, refuse_eq_ok, refuse_eq_ok, bne_eq_false_iff_eq,
    bne_eq_false_iff_eq]

def payload (co64 : Co64) : Bytes :=
  co64.header.bytes ++
    (beU32 (UInt32.ofNat co64.chunkOffset.length) ++ co64.chunkOffset.flatMap beU32)

theorem mux_eq_ok {co64 : Co64} (valid : co64.validate = .ok ()) :
    BoxType.mux co64 = .ok (frame name co64.payload) := by
  have written : BoxType.primitiveMux co64 = .ok co64.payload := by
    change muxTable co64.header beU32 co64.chunkOffset = _
    rw [muxTable, FullBoxHeader.mux_eq_ok (by rw [(validate_eq_ok.mp valid).1]; decide)]
    rfl
  exact Written.mux ⟨valid, written, (ExactSize.exact co64 _ valid written).symm⟩

/-- A table that was read is of its type and has a number of entries that its count can
tell. -/
theorem of_demux {checks : OverflowChecks} {header : BoxHeader} {data : Bytes} {co64 : Co64}
    (read : BoxType.demux checks header data = .ok co64) :
    co64.header.header = header ∧ co64.chunkOffset.length < 2 ^ 32 := by
  obtain ⟨stop, read⟩ := ok_of_parse read
  obtain ⟨⟨full, entries⟩, _, table, done⟩ := bind_eq_ok_iff.mp read
  cases done
  exact of_readTable table

theorem read_reads {co64 : Co64} (valid : co64.validate = .ok ())
    (countable : co64.chunkOffset.length < 2 ^ 32) :
    Reads (read .unlimited co64.header.header) co64.payload co64 := by
  have table := @readTable_reads UInt32 co64.header (fun _ => readU32) beU32 co64.chunkOffset
    (by rw [(validate_eq_ok.mp valid).1]; decide) countable fun entry _ => Reads.readU32 entry
  exact table.map fun pair => (⟨pair.1, pair.2⟩ : Co64)

theorem readsBack_iff (checks : OverflowChecks) (co64 : Co64) :
    ReadsBack checks DynBox.co64 co64 ↔
      (co64.validate = .ok () →
        co64.header.header.boxType = name ∧ co64.chunkOffset.length < 2 ^ 32) := by
  constructor
  · intro back valid
    have read := back _ (mux_eq_ok valid)
    obtain ⟨data, payload⟩ := DynBox.of_demux_plain (fun _ _ _ => rfl)
      (fun _ _ same => DynBox.co64.inj same) rfl read
    obtain ⟨typed, countable⟩ := of_demux payload
    exact ⟨congrArg BoxHeader.boxType typed, countable⟩
  · intro fits bytes written
    obtain ⟨_, valid, _⟩ := sequence_eq_ok_iff.mp written
    obtain ⟨named, countable⟩ := fits valid
    rw [mux_eq_ok valid] at written
    cases written
    have room : co64.payload.length + 16 < 2 ^ 64 := by
      rw [payload, List.length_append, List.length_append, FullBoxHeader.length_bytes, length_beU32,
        length_flatMap_const length_beU32]
      omega
    have read := (read_reads valid countable).parse
    rw [show co64.header.header = ⟨name⟩ from congrArg BoxHeader.mk named] at read
    have framed := DynBox.demux_frame_plain checks .co64 (fun _ _ _ => rfl) room
    exact framed.trans (congrArg (Except.map _) read)

/-- Offsets are read from the payload of the standard, and a table is read from what it is
written as. -/
structure Faithful (checks : OverflowChecks) (offsets : List UInt64) (co64 : Co64) : Prop where
  standard : ∃ read : Co64, BoxType.demux checks ⟨name⟩ (standardPayload offsets) = .ok read ∧
    read.chunkOffset.map UInt32.toUInt64 = offsets
  written : ReadsBack checks DynBox.co64 co64

/-- Of the payloads of the standard, the one of zeros alone is read as it is meant.  What
the table writes itself is read back as long as its count holds the number of entries. -/
theorem faithful_offsets_iff (checks : OverflowChecks) (offsets : List UInt64) (co64 : Co64)
    (countable : offsets.length < 2 ^ 32) :
    Faithful checks offsets co64 ↔
      (∀ offset ∈ offsets, offset = 0) ∧
        (co64.validate = .ok () →
          co64.header.header.boxType = name ∧ co64.chunkOffset.length < 2 ^ 32) := by
  have standard := demux_standardPayload checks countable
  rw [← misread_eq_iff, ← readsBack_iff checks]
  constructor
  · rintro ⟨⟨read, parsed, same⟩, written⟩
    rw [standard] at parsed
    cases parsed
    exact ⟨same, written⟩
  · rintro ⟨same, written⟩
    exact ⟨⟨_, standard, same⟩, written⟩

/-- One chunk at the start of the file, and a table of two chunks. -/
theorem zero_offset_faithful :
    [(0 : UInt64)].length < 2 ^ 32 ∧ Faithful .on [0] ⟨.new name 0 0, [40, 800]⟩ := by
  have countable : [(0 : UInt64)].length < 2 ^ 32 := by decide
  refine ⟨countable, (faithful_offsets_iff .on [0] ⟨.new name 0 0, [40, 800]⟩ countable).mpr ?_⟩
  exact ⟨fun _ found => List.mem_singleton.mp found, fun _ => ⟨rfl, by decide⟩⟩

/-- The first chunk behind a header of 40 bytes is taken to be at 0. -/
theorem short_offset_lost :
    BoxType.demux OverflowChecks.off ⟨name⟩ (standardPayload [40]) = .ok (⟨.new name 0 0, [0]⟩ : Co64) ∧
      ¬Faithful .off [40] ⟨.new name 0 0, []⟩ := by
  have read : BoxType.demux OverflowChecks.off ⟨name⟩ (standardPayload [40]) =
      .ok (⟨.new name 0 0, [0]⟩ : Co64) := rfl
  refine ⟨read, ?_⟩
  rintro ⟨⟨other, parsed, same⟩, _⟩
  rw [read] at parsed
  cases parsed
  cases same

end Co64

/-! ## Numbers of samples -/

/-- The number in the four bytes at a place of a payload. -/
def fieldAt (place : Nat) (payload : Bytes) : Nat := ofBytesBE ((payload.drop place).take 4)

theorem fieldAt_append {before after : Bytes} {place : Nat} (length : before.length = place)
    (number : UInt32) : fieldAt place (before ++ (beU32 number ++ after)) = number.toNat := by
  have bound := number.toNat_lt
  rw [fieldAt, List.drop_left' length, List.take_left' (length_beU32 number), beU32,
    ofBytesBE_toBytesBE]
  exact Nat.mod_eq_of_lt bound

theorem FullBoxHeader.demux_eq_ok {header : BoxHeader} {buffer : Bytes} {position stop : Nat}
    {full : FullBoxHeader} (read : FullBoxHeader.demux header buffer position = .ok (full, stop)) :
    full.header = header ∧ stop = position + 4 := by
  obtain ⟨version, middle, versionRead, read⟩ := bind_eq_ok_iff.mp read
  obtain ⟨flags, last, flagsRead, read⟩ := bind_eq_ok_iff.mp read
  cases read
  have first := (readUint_inside versionRead).2
  have second := (readU24_eq_ok flagsRead).2
  exact ⟨rfl, by omega⟩

theorem FullBoxHeader.checkPlain_eq_ok {header : FullBoxHeader} {subject : String} :
    header.checkPlain subject = .ok () ↔ header.version = 0 ∧ header.flags = 0 := by
  rw [checkPlain, andThen_eq_ok, refuse_eq_ok, refuse_eq_ok, bne_eq_false_iff_eq,
    bne_eq_false_iff_eq]

namespace Stsz

/-- The number of samples that a payload declares, behind the header and the common size. -/
def declaredCount (payload : Bytes) : Nat := fieldAt 8 payload

/-- The sizes of so many samples. -/
def sizes (stsz : Stsz) (count : Nat) : List UInt32 :=
  if stsz.sampleSize = 0 then stsz.samples else List.replicate count stsz.sampleSize

/-- What was read from the data is written, and what is read from that declares the same
samples. -/
def Survives (checks : OverflowChecks) (data : Bytes) (stsz : Stsz) : Prop :=
  ∃ payload again, BoxType.mux stsz = .ok (frame name payload) ∧
    DynBox.demux checks (frame name payload) 0 =
      .ok (.stsz again, (frame name payload).length) ∧
    declaredCount payload = declaredCount data ∧
    again.sizes (declaredCount payload) = stsz.sizes (declaredCount data)

/-- What the reader leaves of a payload. -/
theorem of_demux {checks : OverflowChecks} {header : BoxHeader} {data : Bytes} {stsz : Stsz}
    (read : BoxType.demux checks header data = .ok stsz) :
    stsz.header.header = header ∧
      stsz.samples.length = (if stsz.sampleSize = 0 then declaredCount data else 0) ∧
      declaredCount data < 2 ^ 32 := by
  obtain ⟨stop, read⟩ := ok_of_parse read
  obtain ⟨full, start, headRead, sized⟩ := bind_eq_ok_iff.mp read
  obtain ⟨sampleSize, middle, sizeRead, counted⟩ := bind_eq_ok_iff.mp sized
  obtain ⟨count, behind, countRead, sampled⟩ := bind_eq_ok_iff.mp counted
  obtain ⟨_, _, _, sampled⟩ := bind_eq_ok_iff.mp sampled
  obtain ⟨typed, start_eq⟩ := FullBoxHeader.demux_eq_ok headRead
  obtain ⟨_, middle_eq⟩ := readU32_eq_ok sizeRead
  have declared : declaredCount data = count.toNat := by
    rw [(readU32_eq_ok countRead).1, middle_eq, start_eq]
    rfl
  rw [declared]
  split at sampled
  · rename_i each
    obtain ⟨samples, last, samplesRead, done⟩ := bind_eq_ok_iff.mp sampled
    cases done
    rw [if_pos each]
    exact ⟨typed, length_of_repeated samplesRead, count.toNat_lt⟩
  · rename_i common
    cases sampled
    rw [if_neg common]
    exact ⟨typed, rfl, count.toNat_lt⟩

theorem validate_eq_ok {stsz : Stsz} :
    stsz.validate = .ok () ↔
      (stsz.sampleSize = 0 ∨ stsz.samples = []) ∧ stsz.header.version = 0 ∧
        stsz.header.flags = 0 := by
  rw [validate, andThen_eq_ok, refuse_eq_ok, FullBoxHeader.checkPlain_eq_ok, Bool.and_eq_false_iff,
    bne_eq_false_iff_eq, Bool.not_eq_false', List.isEmpty_iff]

theorem mux_eq_ok {stsz : Stsz} (valid : stsz.validate = .ok ()) :
    BoxType.mux stsz = .ok (frame name (stsz.header.bytes ++ stsz.body)) := by
  have plain := (validate_eq_ok.mp valid).2.2
  have written : BoxType.primitiveMux stsz = .ok (stsz.header.bytes ++ stsz.body) := by
    change stsz.primitiveMux = _
    rw [primitiveMux, FullBoxHeader.mux_eq_ok (by rw [plain]; decide)]
    rfl
  exact Written.mux ⟨valid, written, (ExactSize.exact stsz _ valid written).symm⟩

theorem declaredCount_written {stsz : Stsz} (countable : stsz.samples.length < 2 ^ 32) :
    declaredCount (stsz.header.bytes ++ stsz.body) = stsz.samples.length := by
  have first : (stsz.header.bytes ++ beU32 stsz.sampleSize).length = 8 := by
    rw [List.length_append, FullBoxHeader.length_bytes, length_beU32]
  rw [body, List.append_assoc, ← List.append_assoc, declaredCount, fieldAt_append first]
  exact UInt32.toNat_ofNat_of_lt' countable

theorem read_reads {stsz : Stsz} (valid : stsz.validate = .ok ())
    (countable : stsz.samples.length < 2 ^ 32) (header : BoxHeader) :
    Reads (read .unlimited header) (stsz.header.bytes ++ stsz.body)
      ⟨{ stsz.header with header := header }, stsz.sampleSize, stsz.samples⟩ := by
  obtain ⟨exclusive, _, plain⟩ := validate_eq_ok.mp valid
  have count : (UInt32.ofNat stsz.samples.length).toNat = stsz.samples.length :=
    UInt32.toNat_ofNat_of_lt' countable
  have head := @FullBoxHeader.demux_reads { stsz.header with header := header }
    (by rw [plain]; decide)
  rw [body, List.append_assoc]
  apply head.bind
  apply (Reads.readU32 stsz.sampleSize).bind
  apply (Reads.readU32 (UInt32.ofNat stsz.samples.length)).bind
  rw [count]
  by_cases each : stsz.sampleSize = 0
  · rw [if_pos each, if_pos each]
    apply (allocate_reads _ _).bind
    apply (Reads.repeated fun sample _ => Reads.readU32 sample).finish
    exact Reads.pure _
  · rw [if_neg each, if_neg each, exclusive.resolve_left each]
    exact Reads.pure _

/-- A table that was read keeps its samples exactly when it lists their sizes or has none,
and when it is one that `mux` accepts. -/
theorem kept_iff (checks : OverflowChecks) {header : BoxHeader} {data : Bytes} {stsz : Stsz}
    (read : BoxType.demux checks header data = .ok stsz) :
    Survives checks data stsz ↔
      stsz.header.version = 0 ∧ stsz.header.flags = 0 ∧
        (stsz.sampleSize = 0 ∨ declaredCount data = 0) := by
  obtain ⟨_, length, bound⟩ := of_demux read
  have countable : stsz.samples.length < 2 ^ 32 := by
    rw [length]
    split <;> omega
  constructor
  · rintro ⟨payload, again, written, _, declared, _⟩
    obtain ⟨_, valid, _⟩ := sequence_eq_ok_iff.mp written
    obtain ⟨_, version, flags⟩ := validate_eq_ok.mp valid
    refine ⟨version, flags, ?_⟩
    rw [mux_eq_ok valid] at written
    have same := frame_injective (Except.ok.inj written)
    rw [← same, declaredCount_written countable, length] at declared
    by_cases each : stsz.sampleSize = 0
    · exact .inl each
    · rw [if_neg each] at declared
      exact .inr declared.symm
  · rintro ⟨version, flags, either⟩
    have exclusive : stsz.sampleSize = 0 ∨ stsz.samples = [] := by
      by_cases each : stsz.sampleSize = 0
      · exact .inl each
      · rw [if_neg each] at length
        exact .inr (List.eq_nil_of_length_eq_zero length)
    have valid := validate_eq_ok.mpr ⟨exclusive, version, flags⟩
    have same : stsz.samples.length = declaredCount data := by
      rw [length]
      split
      · rfl
      · rename_i common
        exact (either.resolve_left common).symm
    have declared := declaredCount_written countable
    have room : (stsz.header.bytes ++ stsz.body).length + 16 < 2 ^ 64 := by
      have sized := stsz.length_body
      rw [List.length_append, FullBoxHeader.length_bytes]
      unfold primitiveSize FullBoxHeader.size at sized
      split at sized <;> omega
    have framed := DynBox.demux_frame_plain checks .stsz (fun _ _ _ => rfl) room
    have again := framed.trans
      (congrArg (Except.map _) (read_reads valid countable ⟨BoxKind.stsz.name⟩).parse)
    refine ⟨_, _, mux_eq_ok valid, again, declared.trans same, ?_⟩
    rw [declared, same]
    rfl

end Stsz

namespace Padb

/-- The number of samples that a payload declares, behind the header. -/
def declaredCount (payload : Bytes) : Nat := fieldAt 4 payload

/-- The padding bits of so many samples, two in a byte. -/
def paddings (padb : Padb) (count : Nat) : List UInt8 :=
  (padb.samples.flatMap fun byte : UInt8 => [(byte >>> 4) &&& 0b111, byte &&& 0b111]).take count

/-- What was read from the data is written without leaving the range of the count, and what
is read from that declares the same samples. -/
def Survives (checks : OverflowChecks) (data : Bytes) (padb : Padb) : Prop :=
  (∃ count, sampleCount .on padb.samples = .ok count) ∧
    ∃ payload again, BoxType.mux padb = .ok (frame name payload) ∧
      DynBox.demux checks (frame name payload) 0 =
        .ok (.padb again, (frame name payload).length) ∧
      declaredCount payload = declaredCount data ∧
      again.paddings (declaredCount payload) = padb.paddings (declaredCount data)

theorem of_demux {checks : OverflowChecks} {header : BoxHeader} {data : Bytes} {padb : Padb}
    (read : BoxType.demux checks header data = .ok padb) :
    padb.samples.length = (declaredCount data + 1) / 2 ∧ declaredCount data < 2 ^ 32 := by
  obtain ⟨stop, read⟩ := ok_of_parse read
  obtain ⟨full, start, headRead, counted⟩ := bind_eq_ok_iff.mp read
  obtain ⟨count, middle, countRead, sampled⟩ := bind_eq_ok_iff.mp counted
  obtain ⟨_, _, _, sampled⟩ := bind_eq_ok_iff.mp sampled
  obtain ⟨samples, last, samplesRead, done⟩ := bind_eq_ok_iff.mp sampled
  have declared : declaredCount data = count.toNat := by
    rw [(readU32_eq_ok countRead).1, (FullBoxHeader.demux_eq_ok headRead).2]
    rfl
  cases done
  rw [declared]
  exact ⟨length_of_repeated samplesRead, count.toNat_lt⟩

/-- The count that is written for a number of bytes that has one. -/
theorem sampleCount_eq_ok {samples : List UInt8} (countable : samples.length < 2 ^ 32)
    {count : UInt32} :
    sampleCount .on samples = .ok count ↔
      0 < samples.length ∧ samples.length < 2 ^ 31 ∧
        count = UInt32.ofNat samples.length * 2 - 1 := by
  have length : (UInt32.ofNat samples.length).toNat = samples.length :=
    UInt32.toNat_ofNat_of_lt' countable
  have empty : UInt32.ofNat samples.length = 0 ↔ samples.length = 0 := by
    rw [← UInt32.toNat_inj, length, UInt32.toNat_zero]
  unfold sampleCount
  rw [length]
  split
  · rename_i outside
    rw [empty] at outside
    constructor
    · intro impossible
      cases impossible
    · rintro ⟨positive, small, _⟩
      omega
  · rename_i inside
    have within := not_and.mp inside rfl
    rw [empty] at within
    rw [Except.ok.injEq, eq_comm]
    constructor
    · intro same
      exact ⟨by omega, by omega, same⟩
    · rintro ⟨_, _, same⟩
      exact same

theorem toNat_count {length : Nat} (positive : 0 < length) (small : length < 2 ^ 31) :
    (UInt32.ofNat length * 2 - 1).toNat = 2 * length - 1 := by
  have double : (UInt32.ofNat length * 2).toNat = length * 2 := by
    rw [UInt32.toNat_mul, UInt32.toNat_ofNat_of_lt' (show length < 2 ^ 32 by omega)]
    exact Nat.mod_eq_of_lt (by change length * 2 < _; omega)
  have some : (1 : UInt32) ≤ UInt32.ofNat length * 2 := by
    rw [UInt32.le_iff_toNat_le, double]
    change 1 ≤ _
    omega
  rw [UInt32.toNat_sub_of_le _ _ some, double]
  change length * 2 - 1 = _
  omega

def payload (padb : Padb) : Bytes :=
  padb.header.bytes ++ (beU32 (UInt32.ofNat padb.samples.length * 2 - 1) ++ padb.samples)

theorem mux_eq_ok {padb : Padb}
    (valid : (BoxType.validate padb : Except IoFault Unit) = .ok ()) :
    BoxType.mux padb = .ok (frame name padb.payload) := by
  have plain := (FullBoxHeader.checkPlain_eq_ok.mp valid).2
  have written : BoxType.primitiveMux padb = .ok padb.payload := by
    change padb.muxChecked .off = _
    have count : sampleCount .off padb.samples = .ok (UInt32.ofNat padb.samples.length * 2 - 1) :=
      if_neg fun both => by cases both.1
    rw [muxChecked, FullBoxHeader.mux_eq_ok (by rw [plain]; decide), count]
    rfl
  exact Written.mux ⟨valid, written, (ExactSize.exact padb _ valid written).symm⟩

theorem read_reads {padb : Padb} (plain : padb.header.flags = 0)
    (positive : 0 < padb.samples.length) (small : padb.samples.length < 2 ^ 31)
    (header : BoxHeader) :
    Reads (read .unlimited header) padb.payload ⟨{ padb.header with header := header }, padb.samples⟩ := by
  have head := @FullBoxHeader.demux_reads { padb.header with header := header }
    (by rw [plain]; decide)
  have bytes := @Reads.repeated IoFault UInt8 readU8 (fun byte => [byte]) padb.samples
    fun byte _ => Reads.readU8 byte
  rw [List.flatMap_singleton'] at bytes
  have half : (2 * padb.samples.length - 1 + 1) / 2 = padb.samples.length := by omega
  apply head.bind
  apply (Reads.readU32 _).bind
  apply (allocate_reads _ _).bind
  rw [toNat_count positive small, half]
  apply bytes.finish
  exact Reads.pure _

/-- A table that was read keeps its samples exactly when their number is odd and the
length of the list can be doubled, and when it is one that `mux` accepts. -/
theorem kept_iff (checks : OverflowChecks) {header : BoxHeader} {data : Bytes} {padb : Padb}
    (read : BoxType.demux checks header data = .ok padb) :
    Survives checks data padb ↔
      padb.header.version = 0 ∧ padb.header.flags = 0 ∧
        declaredCount data % 2 = 1 ∧ declaredCount data ≠ 2 ^ 32 - 1 := by
  obtain ⟨length, bound⟩ := of_demux read
  have countable : padb.samples.length < 2 ^ 32 := by omega
  have declared (positive : 0 < padb.samples.length) (small : padb.samples.length < 2 ^ 31) :
      declaredCount padb.payload = 2 * padb.samples.length - 1 := by
    rw [payload, declaredCount, fieldAt_append (FullBoxHeader.length_bytes _),
      toNat_count positive small]
  constructor
  · rintro ⟨⟨count, counted⟩, payload, again, written, _, same, _⟩
    obtain ⟨positive, small, _⟩ := (sampleCount_eq_ok countable).mp counted
    obtain ⟨_, valid, _⟩ := sequence_eq_ok_iff.mp written
    obtain ⟨version, flags⟩ := FullBoxHeader.checkPlain_eq_ok.mp valid
    rw [mux_eq_ok valid] at written
    rw [← frame_injective (Except.ok.inj written), declared positive small] at same
    exact ⟨version, flags, by omega, by omega⟩
  · rintro ⟨version, flags, odd, most⟩
    have valid : (BoxType.validate padb : Except IoFault Unit) = .ok () :=
      FullBoxHeader.checkPlain_eq_ok.mpr ⟨version, flags⟩
    have positive : 0 < padb.samples.length := by omega
    have small : padb.samples.length < 2 ^ 31 := by omega
    have same : declaredCount padb.payload = declaredCount data := by
      rw [declared positive small]
      omega
    have room : padb.payload.length + 16 < 2 ^ 64 := by
      rw [payload, List.length_append, List.length_append, FullBoxHeader.length_bytes, length_beU32]
      omega
    have framed := DynBox.demux_frame_plain checks .padb (fun _ _ _ => rfl) room
    have again := framed.trans
      (congrArg (Except.map _) (read_reads flags positive small ⟨BoxKind.padb.name⟩).parse)
    refine ⟨⟨_, (sampleCount_eq_ok countable).mpr ⟨positive, small, rfl⟩⟩, _, _, mux_eq_ok valid,
      again, same, ?_⟩
    rw [same]
    rfl

end Padb

/-- Of the payloads that the readers accept, the ones whose number of samples is kept are
those with a list of sizes and those with an odd number of padded samples. -/
theorem sample_counts_survive_iff (checks : OverflowChecks) (header : BoxHeader) (data : Bytes) :
    (∀ stsz : Stsz, BoxType.demux checks header data = .ok stsz →
      (stsz.Survives checks data ↔
        stsz.header.version = 0 ∧ stsz.header.flags = 0 ∧
          (stsz.sampleSize = 0 ∨ Stsz.declaredCount data = 0))) ∧
    ∀ padb : Padb, BoxType.demux checks header data = .ok padb →
      (padb.Survives checks data ↔
        padb.header.version = 0 ∧ padb.header.flags = 0 ∧
          Padb.declaredCount data % 2 = 1 ∧ Padb.declaredCount data ≠ 2 ^ 32 - 1) :=
  ⟨fun _ read => Stsz.kept_iff checks read, fun _ read => Padb.kept_iff checks read⟩

/-- One listed size, and three padded samples. -/
theorem listed_samples_survive :
    (⟨.new Stsz.name 0 0, 0, [7]⟩ : Stsz).Survives .on
        [0, 0, 0, 0, 0, 0, 0, 0, 0, 0, 0, 1, 0, 0, 0, 7] ∧
      (⟨.new Padb.name 0 0, [0x12, 0x30]⟩ : Padb).Survives .on
        [0, 0, 0, 0, 0, 0, 0, 3, 0x12, 0x30] := by
  constructor
  · exact ((sample_counts_survive_iff .on ⟨Stsz.name⟩ _).1 _ rfl).mpr ⟨rfl, rfl, .inl rfl⟩
  · exact ((sample_counts_survive_iff .on ⟨Padb.name⟩ _).2 _ rfl).mpr
      ⟨rfl, rfl, by decide, by decide⟩

/-- Two samples of a common size, two padded samples, and a table of none: each is accepted,
and none of them is kept. -/
theorem common_size_forgotten :
    (BoxType.demux OverflowChecks.on ⟨Stsz.name⟩ [0, 0, 0, 0, 0, 0, 0, 8, 0, 0, 0, 2] =
        .ok (⟨.new Stsz.name 0 0, 8, []⟩ : Stsz) ∧
      ¬(⟨.new Stsz.name 0 0, 8, []⟩ : Stsz).Survives .on [0, 0, 0, 0, 0, 0, 0, 8, 0, 0, 0, 2]) ∧
    (BoxType.demux OverflowChecks.on ⟨Padb.name⟩ [0, 0, 0, 0, 0, 0, 0, 2, 0x12] =
        .ok (⟨.new Padb.name 0 0, [0x12]⟩ : Padb) ∧
      ¬(⟨.new Padb.name 0 0, [0x12]⟩ : Padb).Survives .on [0, 0, 0, 0, 0, 0, 0, 2, 0x12]) ∧
    BoxType.demux OverflowChecks.on ⟨Padb.name⟩ [0, 0, 0, 0, 0, 0, 0, 0] =
        .ok (⟨.new Padb.name 0 0, []⟩ : Padb) ∧
      (⟨.new Padb.name 0 0, []⟩ : Padb).muxChecked .on = .error .panic := by
  refine ⟨⟨rfl, fun kept => ?_⟩, ⟨rfl, fun kept => ?_⟩, rfl, rfl⟩
  · have common := ((@Stsz.kept_iff .on ⟨Stsz.name⟩ _ _ rfl).mp kept).2.2
    revert common
    decide
  · have odd := ((@Padb.kept_iff .on ⟨Padb.name⟩ _ _ rfl).mp kept).2.2.1
    revert odd
    decide

end ScuffleVideo.Mp4
