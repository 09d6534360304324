import ScuffleVideo.Mp4.SampleTable

/-!
# Compact sample sizes

The sizes of a compact table have 4, 8 or 16 bits.  Two sizes of 4 bits share a byte, and
an odd number of them leaves half of the last byte unused.  The number of sizes is written
in 32 bits, whatever the length of the list.
-/

namespace ScuffleVideo.Mp4

open Wire Wire.Reader

namespace Stz2

/-! ## Two sizes in a byte -/

/-- The byte that two sizes share. -/
def pairByte (sample next : UInt16) : UInt8 := (sample <<< 4).toUInt8 ||| (next &&& 0x0F).toUInt8

theorem toNat_pairByte {sample : UInt16} (small : sample ≤ 0x0F) (next : UInt16) :
    (pairByte sample next).toNat = sample.toNat * 16 + next.toNat % 16 := by
  have bound : sample.toNat ≤ 15 := UInt16.le_iff_toNat_le.mp small
  have places : (4 : UInt16).toNat % 16 = 4 := rfl
  have upper : (sample <<< 4).toUInt8.toNat = sample.toNat <<< 4 := by
    rw [UInt16.toNat_toUInt8, UInt16.toNat_shiftLeft, places, Nat.shiftLeft_eq]
    omega
  have mask : (0x0F : UInt16).toNat = 2 ^ 4 - 1 := rfl
  have lower : (next &&& 0x0F).toUInt8.toNat = next.toNat % 2 ^ 4 := by
    rw [UInt16.toNat_toUInt8, UInt16.toNat_and, mask, Nat.and_two_pow_sub_one_eq_mod]
    omega
  have short : next.toNat % 2 ^ 4 < 2 ^ 4 := Nat.mod_lt _ (by decide)
  rw [pairByte, UInt8.toNat_or, upper, lower, ← Nat.shiftLeft_add_eq_or_of_lt short,
    Nat.shiftLeft_eq]
  rfl

theorem high_nibble {sample : UInt16} (small : sample ≤ 0x0F) (next : UInt16) :
    (pairByte sample next >>> 4).toUInt16 = sample := by
  have places : (4 : UInt8).toNat % 8 = 4 := rfl
  rw [← UInt16.toNat_inj, UInt8.toNat_toUInt16, UInt8.toNat_shiftRight, toNat_pairByte small,
    places, Nat.shiftRight_eq_div_pow]
  omega

theorem low_nibble {sample next : UInt16} (small : sample ≤ 0x0F) (fits : next ≤ 0x0F) :
    (pairByte sample next &&& 0x0F).toUInt16 = next := by
  have bound : next.toNat ≤ 15 := UInt16.le_iff_toNat_le.mp fits
  have mask : (0x0F : UInt8).toNat = 2 ^ 4 - 1 := rfl
  rw [← UInt16.toNat_inj, UInt8.toNat_toUInt16, UInt8.toNat_and, toNat_pairByte small, mask,
    Nat.and_two_pow_sub_one_eq_mod]
  omega

/-- The last of an odd number of sizes shares its byte with nothing. -/
theorem last_nibble {sample : UInt16} (small : sample ≤ 0x0F) :
    ((sample <<< 4).toUInt8 >>> 4).toUInt16 = sample := by
  have alone : (sample <<< 4).toUInt8 = pairByte sample 0 := UInt8.or_zero.symm
  rw [alone, high_nibble small]

theorem octet_toUInt16 {sample : UInt16} (small : sample ≤ 0xFF) : sample.toUInt8.toUInt16 = sample := by
  have bound : sample.toNat ≤ 255 := UInt16.le_iff_toNat_le.mp small
  rw [← UInt16.toNat_inj, UInt8.toNat_toUInt16, UInt16.toNat_toUInt8]
  omega

/-! ## Reading what was written -/

/-- The size is one that `validate` accepts beside the field size. -/
def Fits (fieldSize : UInt8) (sample : UInt16) : Prop :=
  (fieldSize = 4 → sample ≤ 0x0F) ∧ (fieldSize = 8 → sample ≤ 0xFF)

theorem fits_of_valid {stz2 : Stz2} (valid : stz2.validate = .ok ()) :
    ∀ sample ∈ stz2.samples, Fits stz2.fieldSize sample := by
  unfold validate at valid
  simp only [andThen_eq_ok] at valid
  obtain ⟨_, _, _, each⟩ := valid
  intro sample member
  by_cases wide : stz2.fieldSize = 16
  · rw [wide]
    exact ⟨fun impossible => absurd impossible (by decide),
      fun impossible => absurd impossible (by decide)⟩
  · rw [if_pos (bne_iff_ne.mpr wide), forM_eq_ok] at each
    have checked := each sample member
    unfold checkSample at checked
    constructor
    · intro nibble
      rw [if_pos nibble, refuse_eq_ok, decide_eq_false_iff_not] at checked
      exact UInt16.not_lt.mp checked
    · intro octet
      rw [if_neg (by rw [octet]; decide), refuse_eq_ok, octet] at checked
      exact UInt16.not_lt.mp (of_decide_eq_false checked)

/-- The reader takes the sizes from the bytes exactly as the writer has put them there. -/
theorem readSamples_reads {fieldSize : UInt8} {samples : List UInt16} {bytes : Bytes}
    (fits : ∀ sample ∈ samples, Fits fieldSize sample)
    (written : samplesBytes fieldSize samples = .ok bytes) :
    Reads (readSamples fieldSize samples.length) bytes samples := by
  induction samples using samplesBytes.induct fieldSize generalizing bytes with
  | case1 =>
      cases written
      exact Reads.pure []
  | case2 sample nibble =>
      rw [samplesBytes, if_pos nibble] at written
      cases written
      have small := (fits sample List.mem_cons_self).1 nibble
      have read := (Reads.readU8 (ε := IoFault) (sample <<< 4).toUInt8).map fun byte =>
        [(byte >>> 4).toUInt16]
      rw [last_nibble small] at read
      rw [List.length_singleton, readSamples, if_pos nibble]
      exact read
  | case3 sample notNibble octet =>
      rw [samplesBytes, if_neg notNibble, if_pos octet] at written
      cases written
      have small := (fits sample List.mem_cons_self).2 octet
      have read := (Reads.readU8 (ε := IoFault) sample.toUInt8).map fun byte => [byte.toUInt16]
      rw [octet_toUInt16 small] at read
      rw [List.length_singleton, readSamples, if_neg notNibble, if_pos octet]
      exact read
  | case4 sample notNibble notOctet wide =>
      rw [samplesBytes, if_neg notNibble, if_neg notOctet, if_pos wide] at written
      cases written
      rw [List.length_singleton, readSamples, if_neg notNibble, if_neg notOctet, if_pos wide]
      exact (Reads.readU16 sample).map fun sample => [sample]
  | case5 sample notNibble notOctet notWide =>
      rw [samplesBytes, if_neg notNibble, if_neg notOctet, if_neg notWide] at written
      cases written
  | case6 sample next samples nibble ih =>
      rw [samplesBytes, if_pos nibble] at written
      obtain ⟨rest, restWritten, same⟩ := sequence_eq_ok_iff.mp written
      cases same
      obtain ⟨first, others⟩ := List.forall_mem_cons.mp fits
      obtain ⟨second, others⟩ := List.forall_mem_cons.mp others
      have tail := ih others restWritten
      have high := high_nibble (first.1 nibble) next
      have low := low_nibble (first.1 nibble) (second.1 nibble)
      rw [List.length_cons, List.length_cons, readSamples, if_pos nibble]
      have byte := Reads.readU8 (ε := IoFault) (pairByte sample next)
      apply byte.bind
      rw [high, low]
      exact tail.map fun samples => sample :: next :: samples
  | case7 sample next samples notNibble octet ih =>
      rw [samplesBytes, if_neg notNibble, if_pos octet] at written
      obtain ⟨rest, restWritten, same⟩ := sequence_eq_ok_iff.mp written
      cases same
      obtain ⟨first, others⟩ := List.forall_mem_cons.mp fits
      have tail := ih others restWritten
      rw [List.length_cons, List.length_cons, readSamples, if_neg notNibble, if_pos octet]
      have byte := Reads.readU8 (ε := IoFault) sample.toUInt8
      apply byte.bind
      rw [octet_toUInt16 (first.2 octet)]
      exact tail.map fun samples => sample :: samples
  | case8 sample next samples notNibble notOctet wide ih =>
      rw [samplesBytes, if_neg notNibble, if_neg notOctet, if_pos wide] at written
      obtain ⟨rest, restWritten, same⟩ := sequence_eq_ok_iff.mp written
      cases same
      obtain ⟨_, others⟩ := List.forall_mem_cons.mp fits
      have tail := ih others restWritten
      rw [List.length_cons, List.length_cons, readSamples, if_neg notNibble, if_neg notOctet,
        if_pos wide]
      apply (Reads.readU16 sample).bind
      exact tail.map fun samples => sample :: samples
  | case9 sample next samples notNibble notOctet notWide =>
      rw [samplesBytes, if_neg notNibble, if_neg notOctet, if_neg notWide] at written
      cases written

theorem length_of_readSamples {fieldSize : UInt8} {count : Nat} {buffer : Bytes}
    {position stop : Nat} {samples : List UInt16}
    (done : readSamples fieldSize count buffer position = .ok (samples, stop)) :
    samples.length = count := by
  induction count using readSamples.induct fieldSize generalizing position samples with
  | case1 =>
      cases done
      rfl
  | case2 nibble =>
      rw [readSamples, if_pos nibble] at done
      obtain ⟨byte, _, _, same⟩ := bind_eq_ok_iff.mp done
      cases same
      rfl
  | case3 notNibble octet =>
      rw [readSamples, if_neg notNibble, if_pos octet] at done
      obtain ⟨byte, _, _, same⟩ := bind_eq_ok_iff.mp done
      cases same
      rfl
  | case4 notNibble notOctet wide =>
      rw [readSamples, if_neg notNibble, if_neg notOctet, if_pos wide] at done
      obtain ⟨sample, _, _, same⟩ := bind_eq_ok_iff.mp done
      cases same
      rfl
  | case5 notNibble notOctet notWide =>
      rw [readSamples, if_neg notNibble, if_neg notOctet, if_neg notWide] at done
      cases done
  | case6 count nibble ih =>
      rw [readSamples, if_pos nibble] at done
      obtain ⟨byte, _, _, more⟩ := bind_eq_ok_iff.mp done
      obtain ⟨others, _, rest, same⟩ := bind_eq_ok_iff.mp more
      cases same
      rw [List.length_cons, List.length_cons, ih rest]
  | case7 count notNibble octet ih =>
      rw [readSamples, if_neg notNibble, if_pos octet] at done
      obtain ⟨byte, _, _, more⟩ := bind_eq_ok_iff.mp done
      obtain ⟨others, _, rest, same⟩ := bind_eq_ok_iff.mp more
      cases same
      rw [List.length_cons, ih rest]
  | case8 count notNibble notOctet wide ih =>
      rw [readSamples, if_neg notNibble, if_neg notOctet, if_pos wide] at done
      obtain ⟨sample, _, _, more⟩ := bind_eq_ok_iff.mp done
      obtain ⟨others, _, rest, same⟩ := bind_eq_ok_iff.mp more
      cases same
      rw [List.length_cons, ih rest]
  | case9 count notNibble notOctet notWide =>
      rw [readSamples, if_neg notNibble, if_neg notOctet, if_neg notWide] at done
      cases done

/-- No payload has more sizes than its count can say. -/
theorem length_of_demux {checks : OverflowChecks} {header : BoxHeader} {data : Bytes} {stz2 : Stz2}
    (done : BoxType.demux checks header data = .ok stz2) : stz2.samples.length < 2 ^ 32 := by
  obtain ⟨stop, done⟩ := ok_of_parse done
  obtain ⟨full, _, _, done⟩ := bind_eq_ok_iff.mp done
  obtain ⟨reserved, _, _, done⟩ := bind_eq_ok_iff.mp done
  obtain ⟨fieldSize, _, _, done⟩ := bind_eq_ok_iff.mp done
  obtain ⟨count, _, _, done⟩ := bind_eq_ok_iff.mp done
  obtain ⟨_, _, _, done⟩ := bind_eq_ok_iff.mp done
  obtain ⟨samples, _, samplesRead, done⟩ := bind_eq_ok_iff.mp done
  cases done
  rw [length_of_readSamples samplesRead]
  exact count.toNat_lt

/-- Each accepted table that is written is read back, as long as its length fits the count. -/
theorem read_reads {stz2 : Stz2} {payload : Bytes} (valid : stz2.validate = .ok ())
    (written : stz2.primitiveMux = .ok payload) (countable : stz2.samples.length < 2 ^ 32) :
    Reads (read .unlimited stz2.header.header) payload stz2 := by
  have small := FullBoxHeader.small_of_headed written
  have reserved : stz2.reserved.toNat < 2 ^ 24 := by
    have checked := valid
    unfold validate at checked
    simp only [andThen_eq_ok, refuse_eq_ok, bne_eq_false_iff_eq] at checked
    rw [checked.2.1]
    decide
  have count : (UInt32.ofNat stz2.samples.length).toNat = stz2.samples.length :=
    UInt32.toNat_ofNat_of_lt' countable
  rw [primitiveMux, FullBoxHeader.mux_eq_ok small] at written
  obtain ⟨_, headerWritten, written⟩ := sequence_eq_ok_iff.mp written
  cases headerWritten
  obtain ⟨three, reservedWritten, written⟩ := sequence_eq_ok_iff.mp written
  rw [writeU24, if_pos reserved] at reservedWritten
  cases reservedWritten
  obtain ⟨bytes, samplesWritten, same⟩ := sequence_eq_ok_iff.mp written
  cases same
  have samples := readSamples_reads (fits_of_valid valid) samplesWritten
  rw [← count] at samples
  rw [List.append_assoc, List.append_assoc]
  apply (FullBoxHeader.demux_reads small).bind
  apply (Reads.readU24 reserved).bind
  apply (Reads.readU8 stz2.fieldSize).bind
  apply (Reads.readU32 (UInt32.ofNat stz2.samples.length)).bind
  apply (allocate_reads _ _).bind
  apply samples.finish
  exact Reads.pure stz2

/-! ## Which tables come back -/

/-- The loop of `primitive_mux` ends with bytes at each of the field sizes that `validate`
accepts. -/
theorem exists_samplesBytes {fieldSize : UInt8}
    (known : fieldSize = 4 ∨ fieldSize = 8 ∨ fieldSize = 16) (samples : List UInt16) :
    ∃ bytes, samplesBytes fieldSize samples = .ok bytes := by
  induction samples using samplesBytes.induct fieldSize with
  | case1 => exact ⟨_, rfl⟩
  | case2 sample nibble => exact ⟨_, by rw [samplesBytes, if_pos nibble]⟩
  | case3 sample notNibble octet =>
      exact ⟨_, by rw [samplesBytes, if_neg notNibble, if_pos octet]⟩
  | case4 sample notNibble notOctet wide =>
      exact ⟨_, by rw [samplesBytes, if_neg notNibble, if_neg notOctet, if_pos wide]⟩
  | case5 sample notNibble notOctet notWide =>
      exact absurd ((known.resolve_left notNibble).resolve_left notOctet) notWide
  | case6 sample next samples nibble ih =>
      obtain ⟨rest, written⟩ := ih
      exact ⟨_, by rw [samplesBytes, if_pos nibble, written]; rfl⟩
  | case7 sample next samples notNibble octet ih =>
      obtain ⟨rest, written⟩ := ih
      exact ⟨_, by rw [samplesBytes, if_neg notNibble, if_pos octet, written]; rfl⟩
  | case8 sample next samples notNibble notOctet wide ih =>
      obtain ⟨rest, written⟩ := ih
      exact ⟨_, by rw [samplesBytes, if_neg notNibble, if_neg notOctet, if_pos wide, written]; rfl⟩
  | case9 sample next samples notNibble notOctet notWide =>
      exact absurd ((known.resolve_left notNibble).resolve_left notOctet) notWide

/-- An accepted table is written as soon as its flags fit their three bytes. -/
theorem exists_primitiveMux {stz2 : Stz2} (valid : stz2.validate = .ok ())
    (small : stz2.header.flags.toNat < 2 ^ 24) : ∃ payload, stz2.primitiveMux = .ok payload := by
  unfold validate at valid
  simp only [andThen_eq_ok, refuse_eq_ok, bne_eq_false_iff_eq, Bool.and_eq_false_iff, or_assoc]
    at valid
  obtain ⟨_, reserved, known, _⟩ := valid
  obtain ⟨bytes, samplesWritten⟩ := exists_samplesBytes known stz2.samples
  have empty : (writeU24 stz2.reserved : Except IoFault Bytes) = .ok (toBytesBE 3 0) := by
    rw [reserved]
    rfl
  rw [primitiveMux, FullBoxHeader.mux_eq_ok small, empty, samplesWritten]
  exact ⟨_, rfl⟩

/-- An accepted table is written to a payload that it is read from exactly when its flags
fit their three bytes and the number of its sizes fits the 32 bits of the count. -/
theorem samples_unpack_iff (checks : OverflowChecks) {stz2 : Stz2}
    (valid : (BoxType.validate stz2 : Except IoFault Unit) = .ok ()) :
    (∃ payload, BoxType.primitiveMux stz2 = .ok payload ∧
      BoxType.demux checks stz2.header.header payload = .ok stz2) ↔
      stz2.header.flags.toNat < 2 ^ 24 ∧ stz2.samples.length < 2 ^ 32 := by
  constructor
  · rintro ⟨payload, written, read⟩
    exact ⟨FullBoxHeader.small_of_headed written, length_of_demux read⟩
  · rintro ⟨small, countable⟩
    obtain ⟨payload, written⟩ := exists_primitiveMux valid small
    exact ⟨payload, written, (read_reads valid written countable).parse⟩

/-- Three sizes of 4 bits, the last of them in a byte of its own. -/
theorem three_nibbles_unpack :
    (BoxType.validate (⟨.new name 0 0, 0, 4, [1, 2, 3]⟩ : Stz2) : Except IoFault Unit) = .ok () ∧
      BoxType.primitiveMux (⟨.new name 0 0, 0, 4, [1, 2, 3]⟩ : Stz2) =
        .ok [0, 0, 0, 0, 0, 0, 0, 4, 0, 0, 0, 3, 0x12, 0x30] ∧
      BoxType.demux OverflowChecks.on ⟨name⟩ [0, 0, 0, 0, 0, 0, 0, 4, 0, 0, 0, 3, 0x12, 0x30] =
        .ok (⟨.new name 0 0, 0, 4, [1, 2, 3]⟩ : Stz2) := by
  have valid : (BoxType.validate (⟨.new name 0 0, 0, 4, [1, 2, 3]⟩ : Stz2) :
      Except IoFault Unit) = .ok () := rfl
  obtain ⟨payload, written, read⟩ := (samples_unpack_iff .on valid).mpr (by decide)
  cases written
  exact ⟨valid, rfl, read⟩

theorem samplesBytes_wide (samples : List UInt16) :
    samplesBytes 16 samples = .ok (samples.flatMap beU16) := by
  induction samples using samplesBytes.induct 16 with
  | case1 => rfl
  | case2 sample nibble => cases nibble
  | case3 sample notNibble octet => cases octet
  | case4 sample notNibble notOctet wide =>
      rw [samplesBytes, if_neg notNibble, if_neg notOctet, if_pos wide, List.flatMap_singleton]
  | case5 sample notNibble notOctet notWide => exact absurd rfl notWide
  | case6 sample next samples nibble ih => cases nibble
  | case7 sample next samples notNibble octet ih => cases octet
  | case8 sample next samples notNibble notOctet wide ih =>
      rw [samplesBytes, if_neg notNibble, if_neg notOctet, if_pos wide, ih, List.flatMap_cons]
      rfl
  | case9 sample next samples notNibble notOctet notWide => exact absurd rfl notWide

/-- A table of so many sizes of 16 bits, all of them zero. -/
def zeroSizes (count : Nat) : Stz2 := ⟨.new name 0 0, 0, 16, List.replicate count 0⟩

def zeroPayload (count : Nat) : Bytes :=
  (FullBoxHeader.new name 0 0).bytes ++ (toBytesBE 3 0 ++ [16] ++ beU32 (UInt32.ofNat count) ++
    (List.replicate count 0).flatMap beU16)

theorem primitiveMux_zeroSizes (count : Nat) :
    (zeroSizes count).primitiveMux = .ok (zeroPayload count) := by
  have wide := samplesBytes_wide (List.replicate count 0)
  have small : (FullBoxHeader.new name 0 0).flags.toNat < 2 ^ 24 := by decide
  rw [primitiveMux, zeroSizes, FullBoxHeader.mux_eq_ok small, wide, List.length_replicate]
  rfl

theorem zeroSizes_valid (count : Nat) : (zeroSizes count).validate = .ok () := rfl

theorem zeroSizes_injective : Function.Injective zeroSizes := by
  intro first second same
  have lengths := congrArg (fun stz2 => stz2.samples.length) same
  simpa only [zeroSizes, List.length_replicate] using lengths

/-- A multiple of 2 ^ 32 is written as the count zero. -/
theorem demux_zeroPayload (checks : OverflowChecks) {count : Nat}
    (wraps : UInt32.ofNat count = UInt32.ofNat 0) :
    BoxType.demux checks (zeroSizes count).header.header (zeroPayload count) =
      .ok (zeroSizes 0) := by
  have empty := read_reads (zeroSizes_valid 0) (primitiveMux_zeroSizes 0) (by decide)
  have longer : zeroPayload count = zeroPayload 0 ++ (List.replicate count 0).flatMap beU16 := by
    simp only [zeroPayload, wraps, List.append_assoc, List.replicate_zero, List.flatMap_nil,
      List.nil_append]
  rw [longer]
  exact empty.parse_append _

/-- Of 2 ^ 32 sizes the count says that there are none. -/
theorem long_table_emptied :
    (BoxType.validate (zeroSizes (2 ^ 32)) : Except IoFault Unit) = .ok () ∧
      BoxType.primitiveMux (zeroSizes (2 ^ 32)) = .ok (zeroPayload (2 ^ 32)) ∧
      BoxType.demux OverflowChecks.on (zeroSizes (2 ^ 32)).header.header (zeroPayload (2 ^ 32)) =
        .ok (zeroSizes 0) ∧
      zeroSizes 0 ≠ zeroSizes (2 ^ 32) := by
  have wraps : UInt32.ofNat (2 ^ 32) = UInt32.ofNat 0 := by decide
  refine ⟨zeroSizes_valid _, primitiveMux_zeroSizes _, demux_zeroPayload .on wraps, fun same => ?_⟩
  exact absurd (zeroSizes_injective same) (by decide)

end Stz2

end ScuffleVideo.Mp4
