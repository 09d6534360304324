import ScuffleVideo.Mp4.Rewriting

/-!
# What a box that comes back says of the boxes inside it

The bytes of a container are those of its boxes, one frame behind the other, and what a frame is
read as depends on its payload alone.  So if a container is read from its bytes as what was
written, then so is each of its boxes, as long as their types tell them apart.
-/

namespace ScuffleVideo.Mp4

open Wire Wire.Reader

namespace DynBox

variable {checks : OverflowChecks}

/-! ## Frames -/

/-- The payload of a box is read as a box. -/
def Parses (checks : OverflowChecks) (box other : DynBox) : Prop :=
  ∃ depth own rest, ownMux box = .ok own ∧ muxAll (parts box) = .ok rest ∧
    ofData checks (demuxWithin checks depth) ⟨typeName box⟩ (own ++ rest) = .ok other

/-- The payload of a box is read as the box itself. -/
def Settles (checks : OverflowChecks) (box : DynBox) : Prop := Parses checks box box

/-- A box whose bytes are a frame of its payload. -/
structure Frameable (box : DynBox) : Prop where
  honest : Honest box
  short : size box ≤ u32Max

theorem Frameable.part {box inner : DynBox} (frameable : Frameable box)
    (inside : inner ∈ parts box) : Frameable inner where
  honest := ((honest_iff box).mp frameable.honest).2 inner inside
  short := Nat.le_of_lt (Nat.lt_of_lt_of_le (size_lt_of_mem_parts inside) frameable.short)

theorem Frameable.nested {box inner : DynBox} (frameable : Frameable box)
    (nested : Nested box inner) : Frameable inner := by
  induction nested with
  | self => exact frameable
  | part inside _ ih => exact ih (frameable.part inside)

/-- What is read where a box stands is read from its payload, and takes its bytes. -/
theorem parses_of_read {depth stop : Nat} {box other : DynBox} {before bytes after : Bytes}
    (frameable : Frameable box) (written : mux box = .ok bytes)
    (read : demuxWithin checks depth (before ++ bytes ++ after) before.length =
      .ok (other, stop)) :
    Parses checks box other ∧ stop = (before ++ bytes).length := by
  cases depth with
  | zero => cases read
  | succ depth =>
      have length := (length_mux box written frameable.short).1
      obtain ⟨own, rest, ownWritten, restWritten, rfl⟩ :=
        mux_frame frameable.honest written frameable.short
      have room : (own ++ rest).length + 16 < 2 ^ 64 := by
        have short := frameable.short
        rw [length_frame] at length
        unfold boxSize at length
        unfold u32Max at short length
        split at length <;> omega
      rw [demuxWithin_succ, bind_ok (demux_frame _ (typeName box) room before after)] at read
      obtain ⟨parsed, same⟩ := ok_of_ofExcept read
      refine ⟨⟨depth, own, rest, ownWritten, restWritten, parsed⟩, ?_⟩
      rw [same, List.length_append]

/-- A box of a known type is read as a box of the same type. -/
theorem Parses.kind_eq {box other : DynBox} {kind : BoxKind} (parses : Parses checks box other)
    (known : box.kind = some kind) : other.kind = some kind := by
  obtain ⟨_, _, _, _, _, parsed⟩ := parses
  have named : typeName box = kind.name := by cases box <;> cases known <;> rfl
  rw [kind_ofData _ _ parsed, named]
  exact BoxKind.ofName_name kind

theorem Parses.written {box other : DynBox} (parses : Parses checks box other) :
    ∃ own, ownMux box = .ok own := by
  obtain ⟨_, own, _, ownWritten, _⟩ := parses
  exact ⟨own, ownWritten⟩

/-- A box of a known type that was read is what its type makes of some payload. -/
theorem ofKind_of_returned {depth : Nat} {box : DynBox} {kind : BoxKind}
    (read : Returned (demuxWithin checks depth) box) (typed : box.kind = some kind) :
    ∃ nested data, ofKind checks nested ⟨kind.name⟩ data kind = .ok box := by
  obtain ⟨buffer, position, stop, done⟩ := read
  cases depth with
  | zero => cases done
  | succ depth =>
      obtain ⟨⟨⟨name⟩, data⟩, _, _, more⟩ := bind_eq_ok_iff.mp done
      have parsed := (ok_of_ofExcept more).1
      have named := (kind_ofData _ _ parsed).symm.trans typed
      have same : kind.name = name := BoxKind.name_of_ofName named
      rw [← same, ofData_name] at parsed
      exact ⟨_, data, parsed⟩

/-! ## Boxes in a row -/

/-- Where boxes stand up to the end, each of them is read. -/
theorem parses_of_whileRemaining {reader : Reader IoFault DynBox} {boxes found : List DynBox}
    {rounds stop : Nat} {before bytes : Bytes}
    (within : ∀ buffer position, ∃ depth,
      reader buffer position = demuxWithin checks depth buffer position)
    (frameable : ∀ box ∈ boxes, Frameable box) (written : muxAll boxes = .ok bytes)
    (read : whileRemaining IoFault.unfinished reader rounds (before ++ bytes) before.length =
      .ok (found, stop)) :
    List.Forall₂ (Parses checks) boxes found := by
  induction boxes generalizing before bytes rounds found with
  | nil =>
      cases written
      rw [List.append_nil, whileRemaining_beyond (Nat.le_refl _)] at read
      cases read
      exact .nil
  | cons box boxes ih =>
      obtain ⟨boxFrameable, others⟩ := List.forall_mem_cons.mp frameable
      rw [muxAll] at written
      obtain ⟨first, firstWritten, more⟩ := sequence_eq_ok_iff.mp written
      obtain ⟨rest, restWritten, same⟩ := sequence_eq_ok_iff.mp more
      cases same
      have inside : before.length < (before ++ (first ++ rest)).length := by
        have some := List.length_pos_of_ne_nil (ne_nil_of_mux firstWritten boxFrameable.short)
        simp only [List.length_append]
        omega
      cases rounds with
      | zero =>
          unfold whileRemaining at read
          rw [if_pos inside] at read
          cases read
      | succ rounds =>
          rw [whileRemaining_inside inside] at read
          obtain ⟨other, middle, one, more⟩ := bind_eq_ok_iff.mp read
          obtain ⟨later, last, remaining, same⟩ := bind_eq_ok_iff.mp more
          cases same
          obtain ⟨depth, same⟩ := within (before ++ (first ++ rest)) before.length
          rw [same, ← List.append_assoc] at one
          rw [← List.append_assoc] at remaining
          obtain ⟨parses, rfl⟩ := parses_of_read boxFrameable firstWritten one
          exact .cons parses (ih others restWritten remaining)

/-- Where boxes stand, as many are read as there are. -/
theorem parses_of_repeated {boxes found : List DynBox} {depth stop : Nat} {before bytes : Bytes}
    (frameable : ∀ box ∈ boxes, Frameable box) (written : muxAll boxes = .ok bytes)
    (read : repeated (demuxWithin checks depth) boxes.length (before ++ bytes) before.length =
      .ok (found, stop)) :
    List.Forall₂ (Parses checks) boxes found := by
  induction boxes generalizing before bytes found with
  | nil =>
      cases read
      exact .nil
  | cons box boxes ih =>
      obtain ⟨boxFrameable, others⟩ := List.forall_mem_cons.mp frameable
      rw [muxAll] at written
      obtain ⟨first, firstWritten, more⟩ := sequence_eq_ok_iff.mp written
      obtain ⟨rest, restWritten, same⟩ := sequence_eq_ok_iff.mp more
      cases same
      obtain ⟨other, middle, one, more⟩ := bind_eq_ok_iff.mp read
      obtain ⟨later, last, remaining, same⟩ := bind_eq_ok_iff.mp more
      cases same
      rw [← List.append_assoc] at one remaining
      obtain ⟨parses, rfl⟩ := parses_of_read boxFrameable firstWritten one
      exact .cons parses (ih others restWritten remaining)

/-- In a file that is read as what was written, so is each box. -/
theorem settles_of_demuxAll {boxes : List DynBox} {data : Bytes}
    (frameable : ∀ box ∈ boxes, Frameable box) (written : muxAll boxes = .ok data)
    (parsed : demuxAll checks data = .ok boxes) : ∀ box ∈ boxes, Settles checks box := by
  obtain ⟨_, done⟩ := ok_of_parse parsed
  have parses := @parses_of_whileRemaining checks (demux checks) boxes boxes _ _ [] data
    (fun buffer _ => ⟨buffer.length + 1, rfl⟩) frameable written done
  intro box member
  exact List.forall₂_same.mp parses box member

/-- The types of boxes that stand in a row. -/
def Typed (boxes : List DynBox) (kinds : List BoxKind) : Prop := boxes.map kind = kinds.map some

theorem Typed.kind_eq {boxes : List DynBox} {kinds : List BoxKind} (typed : Typed boxes kinds)
    {box : DynBox} (member : box ∈ boxes) : ∃ kind, box.kind = some kind := by
  have among : box.kind ∈ kinds.map some := by
    rw [← show boxes.map kind = kinds.map some from typed]
    exact List.mem_map_of_mem member
  obtain ⟨kind, _, same⟩ := List.mem_map.mp among
  exact ⟨kind, same.symm⟩

/-- Boxes of different types that were read are read as what they are. -/
theorem settles_of_mem {boxes found : List DynBox} {kinds : List BoxKind}
    (parses : List.Forall₂ (Parses checks) boxes found) (typed : Typed boxes kinds)
    (apart : kinds.Nodup) {box : DynBox} (inside : box ∈ boxes) (back : box ∈ found) :
    Settles checks box := by
  have among : ∃ first ∈ boxes, Parses checks first box := by
    clear inside typed
    induction parses with
    | nil => cases back
    | cons one _ ih =>
        rcases List.mem_cons.mp back with rfl | later
        · exact ⟨_, List.mem_cons_self, one⟩
        · obtain ⟨first, member, parses⟩ := ih later
          exact ⟨first, List.mem_cons_of_mem _ member, parses⟩
  obtain ⟨first, member, parses⟩ := among
  have different : (boxes.map DynBox.kind).Nodup := by
    rw [show boxes.map DynBox.kind = kinds.map some from typed]
    exact apart.map (Option.some_injective _)
  obtain ⟨kind, firstKind⟩ := typed.kind_eq member
  cases List.inj_on_of_nodup_map different inside member
    ((parses.kind_eq firstKind).trans firstKind.symm)
  exact parses

theorem exists_trak {box : DynBox} (track : box.kind = some .trak) : ∃ trak, box = .trak trak := by
  cases box <;> cases track
  exact ⟨_, rfl⟩

theorem asTrak_eq_none {box : DynBox} {kind : BoxKind} (typed : box.kind = some kind)
    (other : kind ≠ .trak) : asTrak box = none := by
  cases found : asTrak box with
  | none => rfl
  | some trak =>
      have same : box = .trak trak := Picks.eq_of found
      subst same
      exact absurd (Option.some.inj typed).symm other

/-- Tracks are read as tracks, and nothing else is. -/
theorem parses_traks {boxes found : List DynBox}
    (parses : List.Forall₂ (Parses checks) boxes found)
    (known : ∀ box ∈ boxes, ∃ kind, box.kind = some kind) :
    List.Forall₂ (fun trak other => Parses checks (.trak trak) (.trak other))
      (boxes.filterMap asTrak) (found.filterMap asTrak) := by
  induction parses with
  | nil => exact .nil
  | @cons box other boxes found one _ ih =>
      obtain ⟨⟨kind, kindBox⟩, others⟩ := List.forall_mem_cons.mp known
      have kindOther := one.kind_eq kindBox
      by_cases track : kind = .trak
      · subst track
        obtain ⟨trak, rfl⟩ := exists_trak kindBox
        obtain ⟨back, rfl⟩ := exists_trak kindOther
        exact .cons one (ih others)
      · rw [List.filterMap_cons_none (asTrak_eq_none kindBox track),
          List.filterMap_cons_none (asTrak_eq_none kindOther track)]
        exact ih others

/-! ## Containers -/

section Containers

variable {β : Type} {inject : β → DynBox} {box : β} (kind : BoxKind)
  (named : typeName (inject box) = kind.name) (injective : Function.Injective inject)
  (frameable : Frameable (inject box)) (settles : Settles checks (inject box))

include named injective settles

/-- A box of a type of its own is what its type makes of its payload. -/
theorem demux_of_settles [BoxType β]
    (plain : ∀ nested header data, ofKind checks nested header data kind =
      (do return inject (← BoxType.demux checks header data)))
    (leaf : parts (inject box) = []) :
    ∃ own, ownMux (inject box) = .ok own ∧ BoxType.demux checks ⟨kind.name⟩ own = .ok box := by
  obtain ⟨depth, own, rest, ownWritten, restWritten, parsed⟩ := settles
  rw [leaf] at restWritten
  cases restWritten
  rw [named, List.append_nil, ofData_name, plain] at parsed
  obtain ⟨value, read, same⟩ := sequence_eq_ok_iff.mp parsed
  cases injective (Except.ok.inj same)
  exact ⟨own, ownWritten, read⟩

include frameable

/-- A container sorts what is read of its boxes. -/
theorem found_of_collected {collect : BoxHeader → List DynBox → Except IoFault β}
    (container : ∀ nested header data, ofKind checks nested header data kind =
      (do return inject (← (collected nested (collect header)).parse data)))
    (bare : ownMux (inject box) = .ok []) :
    ∃ found, List.Forall₂ (Parses checks) (parts (inject box)) found ∧
      collect ⟨kind.name⟩ found = .ok box := by
  obtain ⟨depth, own, rest, ownWritten, restWritten, parsed⟩ := settles
  cases bare.symm.trans ownWritten
  rw [named, List.nil_append, ofData_name, container] at parsed
  obtain ⟨value, read, same⟩ := sequence_eq_ok_iff.mp parsed
  cases injective (Except.ok.inj same)
  obtain ⟨stop, done⟩ := ok_of_parse read
  obtain ⟨found, middle, boxesRead, sorted⟩ := bind_eq_ok_iff.mp done
  refine ⟨found, ?_, (ok_of_ofExcept sorted).1⟩
  exact @parses_of_whileRemaining checks _ _ found rest.length middle [] rest
    (fun _ _ => ⟨depth, rfl⟩) (fun inner inside => frameable.part inside) restWritten boxesRead

/-- A container gives back each of its boxes, if they are of different types. -/
theorem settles_part {collect : BoxHeader → List DynBox → Except IoFault β}
    (container : ∀ nested header data, ofKind checks nested header data kind =
      (do return inject (← (collected nested (collect header)).parse data)))
    (bare : ownMux (inject box) = .ok [])
    (sorts : ∀ {boxes}, collect ⟨kind.name⟩ boxes = .ok box →
      Fits (inject box) ∧ parts (inject box) ⊆ boxes)
    {kinds : List BoxKind} (typed : Typed (parts (inject box)) kinds) (apart : kinds.Nodup)
    {inner : DynBox} (inside : inner ∈ parts (inject box)) : Settles checks inner := by
  obtain ⟨found, parses, sorted⟩ :=
    found_of_collected kind named injective frameable settles container bare
  exact settles_of_mem parses typed apart inside ((sorts sorted).2 inside)

/-- A sample entry gives back each of its boxes, if they are of different types. -/
theorem settles_entered {Extension : Type} [SampleEntryExtension Extension]
    {collect : BoxHeader → SampleEntry Extension → List DynBox → Except IoFault β}
    (container : ∀ nested header data, ofKind checks nested header data kind =
      (do return inject (← (entered nested (collect header)).parse data)))
    {fields : Bytes} {entry : SampleEntry Extension} (own : ownMux (inject box) = .ok fields)
    (reads : Reads SampleEntry.demux fields entry)
    (sorts : ∀ {boxes}, collect ⟨kind.name⟩ entry boxes = .ok box →
      Fits (inject box) ∧ parts (inject box) ⊆ boxes)
    {kinds : List BoxKind} (typed : Typed (parts (inject box)) kinds) (apart : kinds.Nodup)
    {inner : DynBox} (inside : inner ∈ parts (inject box)) : Settles checks inner := by
  obtain ⟨depth, own', rest, ownWritten, restWritten, parsed⟩ := settles
  cases own.symm.trans ownWritten
  rw [named, ofData_name, container] at parsed
  obtain ⟨value, read, same⟩ := sequence_eq_ok_iff.mp parsed
  cases injective (Except.ok.inj same)
  obtain ⟨stop, done⟩ := ok_of_parse read
  rw [entered, bind_ok (reads.run_append rest)] at done
  obtain ⟨found, middle, boxesRead, sorted⟩ := bind_eq_ok_iff.mp done
  have parses := parses_of_whileRemaining (fun _ _ => ⟨depth, rfl⟩)
    (fun inner inside => frameable.part inside) restWritten boxesRead
  exact settles_of_mem parses typed apart inside ((sorts (ok_of_ofExcept sorted).1).2 inside)

end Containers

/-- A table of sample entries gives back each of them. -/
theorem settles_entry {header : FullBoxHeader} {entries : List DynBox}
    (named : header.header = ⟨Stsd.name⟩) (few : entries.length < 2 ^ 32)
    (frameable : Frameable (.stsd ⟨header, entries⟩))
    (settles : Settles checks (.stsd ⟨header, entries⟩)) :
    ∀ entry ∈ entries, Settles checks entry := by
  obtain ⟨depth, own, rest, ownWritten, restWritten, parsed⟩ := settles
  obtain ⟨_, _, more⟩ := sequence_eq_ok_iff.mp ownWritten
  obtain ⟨first, firstWritten, same⟩ := sequence_eq_ok_iff.mp more
  cases same
  have small : header.flags.toNat < 2 ^ 24 :=
    @FullBoxHeader.small_of_headed header .ok first (by rw [firstWritten]; rfl)
  rw [FullBoxHeader.mux_eq_ok small] at firstWritten
  cases firstWritten
  rw [show typeName (.stsd ⟨header, entries⟩) = BoxKind.name .stsd from rfl, ofData_name] at parsed
  obtain ⟨table, read, same⟩ := sequence_eq_ok_iff.mp parsed
  cases same
  obtain ⟨stop, done⟩ := ok_of_parse read
  have headerRead := (FullBoxHeader.demux_reads small).run_append
    (beU32 (UInt32.ofNat entries.length) ++ rest)
  have countRead := @Reads.readU32 IoFault _ (UInt32.ofNat entries.length) header.bytes rest
  have granted := allocate_reads Stsd.name (UInt32.ofNat entries.length).toNat
    (header.bytes ++ beU32 (UInt32.ofNat entries.length)) rest
  rw [named, ← List.append_assoc] at headerRead
  rw [List.append_nil, List.length_nil, Nat.add_zero, List.length_append] at granted
  obtain ⟨_, _, readHeader, more⟩ := bind_eq_ok_iff.mp done
  cases headerRead.symm.trans readHeader
  obtain ⟨_, _, readCount, more⟩ := bind_eq_ok_iff.mp more
  cases countRead.symm.trans readCount
  obtain ⟨_, _, room, more⟩ := bind_eq_ok_iff.mp more
  cases granted.symm.trans room
  obtain ⟨_, _, entriesRead, same⟩ := bind_eq_ok_iff.mp more
  cases same
  rw [UInt32.toNat_ofNat_of_lt' few, ← List.length_append] at entriesRead
  have parses : List.Forall₂ (Parses checks) entries entries :=
    parses_of_repeated (fun entry member => frameable.part member) restWritten entriesRead
  intro entry member
  exact List.forall₂_same.mp parses entry member

end DynBox

/-! ## Descriptors -/

namespace DynDescriptor

/-- A descriptor that needs all there is was found alone. -/
theorem eq_singleton_of_need_le {descriptor : DynDescriptor} {found : List DynDescriptor}
    (member : descriptor ∈ found) (all : (found.map need).sum ≤ descriptor.need) :
    found = [descriptor] := by
  obtain ⟨before, after, rfl⟩ := List.append_of_mem member
  rw [List.map_append, List.map_cons, List.sum_append, List.sum_cons] at all
  have none {others : List DynDescriptor} (nothing : (others.map need).sum = 0) : others = [] := by
    cases others with
    | nil => rfl
    | cons other others =>
        have some := other.need_pos
        rw [List.map_cons, List.sum_cons] at nothing
        omega
  rw [none (show (before.map need).sum = 0 by omega), none (show (after.map need).sum = 0 by omega),
    List.nil_append]

end DynDescriptor

/-- The descriptor of the stream is among those that are found behind the header. -/
theorem Esds.scans_of_read {header : FullBoxHeader} {descriptor : EsDescriptor DynDescriptor}
    {unknown : List DynDescriptor} {bytes : Bytes} (small : header.flags.toNat < 2 ^ 24)
    (named : header.header = ⟨name⟩)
    (back : (read ⟨name⟩).parse (header.bytes ++ bytes) = .ok ⟨header, descriptor, unknown⟩) :
    ∃ found stop, .es descriptor ∈ found ∧
      Scans DynDescriptor.demux (header.bytes ++ bytes) header.bytes.length found stop := by
  obtain ⟨stop, done⟩ := ok_of_parse back
  have headerRead := (FullBoxHeader.demux_reads small).run_append bytes
  rw [named] at headerRead
  obtain ⟨_, _, readHeader, more⟩ := bind_eq_ok_iff.mp done
  cases headerRead.symm.trans readHeader
  obtain ⟨found, reached, descriptorsRead, more⟩ := bind_eq_ok_iff.mp more
  refine ⟨found, reached, ?_, scans_of_whileRemaining descriptorsRead⟩
  cases last : lastOf DynDescriptor.asEs found with
  | none =>
      rw [last] at more
      cases more
  | some chosen =>
      rw [last] at more
      cases more
      obtain ⟨chosen, member, picked⟩ := List.mem_filterMap.mp (List.mem_of_getLast? last)
      cases chosen <;> cases picked
      exact member

/-- The descriptors of a stream that come back have sizes that are the same both ways round. -/
theorem Esds.palindromic_of_demux {header : FullBoxHeader} {descriptor : EsDescriptor DynDescriptor}
    {unknown : List DynDescriptor} {payload : Bytes}
    (formed : (DynDescriptor.es descriptor).WellFormed) (named : header.header = ⟨name⟩)
    (written : primitiveMux ⟨header, descriptor, unknown⟩ = .ok payload)
    (back : (read ⟨name⟩).parse payload = .ok ⟨header, descriptor, unknown⟩) :
    (DynDescriptor.es descriptor).Palindromic := by
  have small := FullBoxHeader.small_of_headed written
  obtain ⟨first, headerWritten, more⟩ := sequence_eq_ok_iff.mp written
  obtain ⟨bytes, descriptorWritten, same⟩ := sequence_eq_ok_iff.mp more
  cases same
  cases (FullBoxHeader.mux_eq_ok small).symm.trans headerWritten
  obtain ⟨found, reached, among, all⟩ := scans_of_read small named back
  have scans : Scans (DynDescriptor.demuxWithin ((header.bytes ++ bytes).length + 1))
      (header.bytes ++ bytes) header.bytes.length found reached := all.congr fun _ => rfl
  have spans := DynDescriptor.spans_demuxWithin ((header.bytes ++ bytes).length + 1)
  have length := (formed.length_mux descriptorWritten).trans
    (DynDescriptor.need_eq formed.ascii).symm
  have front : header.bytes.length ≤ (header.bytes ++ bytes).length := by
    rw [List.length_append]
    omega
  -- The descriptor needs all bytes, so it is the only one and ends where they do.
  have room := scans.need_le spans front
  rw [List.length_append] at room
  cases DynDescriptor.eq_singleton_of_need_le among (by omega)
  cases scans with
  | @step _ middle _ _ _ read more =>
      have taken := spans _ _ _ _ front read
      rw [List.length_append] at taken
      have reached : middle = header.bytes.length + bytes.length := by omega
      rw [reached] at read
      exact DynDescriptor.palindromic_of_readExactly formed
        ⟨header.bytes, bytes, [], descriptorWritten, (List.append_nil _).symm, read⟩

end ScuffleVideo.Mp4
