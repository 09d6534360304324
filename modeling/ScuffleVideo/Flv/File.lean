import ScuffleVideo.Flv.Tag

/-!
# FLV files

A file is a header, whose last field says where the tags begin, and then tags, each behind the size
of the one before it.  A last size may stand behind the last tag.
-/

namespace ScuffleVideo

namespace Flv

open Wire Wire.Reader

variable (codecs : Codecs)

structure FlvHeader where
  version : UInt8
  hasAudio : Bool
  hasVideo : Bool
  extra : Bytes
  deriving DecidableEq, Repr

/-- The signature is compared as the number that its three bytes are. -/
def FlvHeader.demux : Reader IoFault FlvHeader := do
  let start ← tell
  let signature ← readU24
  if signature ≠ UInt32.ofNat (ofBytesBE [0, 0x46, 0x4c, 0x56]) then
    fail (.invalidData "invalid signature")
  else do
    let version ← readU8
    let flags ← readU8
    let offset ← readU32
    let stop ← tell
    let size := stop - start
    if offset.toNat < size then
      fail (.invalidData "invalid offset")
    else do
      let extra ← extractBytes (offset.toNat - size)
      return ⟨version, flags &&& 0b00000100 != 0, flags &&& 0b00000001 != 0, extra⟩

structure FlvFile where
  header : FlvHeader
  tags : List (FlvTag codecs)

/-- The loop over the tags of the body, with a bound on its rounds. -/
def FlvFile.readTags : Nat → Reader IoFault (List (FlvTag codecs))
  | 0 => fail .unfinished
  | rounds + 1 => do
      if (← remaining) = 0 then
        return []
      else do
        let _ ← (readU32 : Reader IoFault UInt32)
        if (← remaining) = 0 then
          return []
        else do
          let tag ← FlvTag.demux codecs
          let tags ← FlvFile.readTags rounds
          return tag :: tags

/-- Each round moves the cursor, so that a round for each byte is enough. -/
def FlvFile.demux : Reader IoFault (FlvFile codecs) := do
  let header ← FlvHeader.demux
  let rounds ← remaining
  let tags ← FlvFile.readTags codecs (rounds + 1)
  return ⟨header, tags⟩

/-! ## What is written -/

/-- The fields of a header as they are written: any flags, and what stands between the header and
the tags. -/
structure HeaderFields where
  version : UInt8
  flags : UInt8
  extra : Bytes
  short : 9 + extra.length < 2 ^ 32

namespace HeaderFields

def bytes (fields : HeaderFields) : Bytes :=
  [0x46, 0x4c, 0x56] ++ ([fields.version] ++ ([fields.flags] ++
    (beU32 (UInt32.ofNat (9 + fields.extra.length)) ++ fields.extra)))

def header (fields : HeaderFields) : FlvHeader :=
  ⟨fields.version, fields.flags &&& 0b00000100 != 0, fields.flags &&& 0b00000001 != 0, fields.extra⟩

end HeaderFields

/-- A tag as it is written behind the size of the one before it: with any time, a stream id and a
size that have 24 bits, and a body that is read as the data of its type. -/
structure TagRecord where
  previousTagSize : UInt32
  tagType : FlvTagType
  timestampMs : UInt32
  streamId : UInt32
  body : Bytes
  data : FlvTagData codecs
  narrow : streamId.toNat < 2 ^ 24
  short : body.length < 2 ^ 24
  accepted : (FlvTagData.demux codecs tagType).parse body = .ok data

namespace TagRecord

variable {codecs}

/-- The low 24 bits of the time stand before the high 8 bits. -/
def tagBytes (record : TagRecord codecs) : Bytes :=
  [record.tagType.code] ++ (toBytesBE 3 record.body.length ++
    (toBytesBE 3 (record.timestampMs.toNat % 2 ^ 24) ++
      ([UInt8.ofNat (record.timestampMs.toNat / 2 ^ 24)] ++
        (toBytesBE 3 record.streamId.toNat ++ record.body))))

def bytes (record : TagRecord codecs) : Bytes := beU32 record.previousTagSize ++ record.tagBytes

def tag (record : TagRecord codecs) : FlvTag codecs :=
  ⟨record.timestampMs, record.streamId, record.data⟩

end TagRecord

/-- The body of a file. -/
def bodyBytes (records : List (TagRecord codecs)) (lastTagSize : Option UInt32) : Bytes :=
  records.flatMap TagRecord.bytes ++ optional beU32 lastTagSize

/-! ## Reading back -/

variable {codecs}

/-- The extra bytes begin where the last field of the header ends. -/
theorem HeaderFields.demux_bytes (fields : HeaderFields) :
    Reads FlvHeader.demux fields.bytes fields.header := by
  intro before after
  have stands : StandsAt (before ++ fields.bytes ++ after) before.length fields.bytes :=
    ⟨before, after, rfl, rfl⟩
  have whole : fields.bytes.length = 9 + fields.extra.length := by
    simp only [bytes, List.length_append, List.length_cons, List.length_nil, length_beU32]
    omega
  rw [whole]
  generalize before ++ fields.bytes ++ after = data at stands ⊢
  generalize before.length = start at stands ⊢
  unfold bytes at stands
  obtain ⟨signatureStands, rest⟩ := StandsAt.append_iff.mp stands
  obtain ⟨versionStands, rest⟩ := StandsAt.append_iff.mp rest
  obtain ⟨flagsStands, rest⟩ := StandsAt.append_iff.mp rest
  obtain ⟨offsetStands, extraStands⟩ := StandsAt.append_iff.mp rest
  rw [length_beU32] at extraStands
  have signatureRead : (readU24 : Reader IoFault UInt32) data start = .ok (0x464c56, start + 3) :=
    (Reads.readU24 (show (0x464c56 : UInt32).toNat < 2 ^ 24 by decide)).at signatureStands
  have versionRead : (readU8 : Reader IoFault UInt8) data (start + 3) =
      .ok (fields.version, start + 4) := (Reads.readU8 _).at versionStands
  have flagsRead : (readU8 : Reader IoFault UInt8) data (start + 4) =
      .ok (fields.flags, start + 5) := (Reads.readU8 _).at flagsStands
  have offsetRead : (readU32 : Reader IoFault UInt32) data (start + 5) =
      .ok (UInt32.ofNat (9 + fields.extra.length), start + 9) := by
    have read := (Reads.readU32 (ε := IoFault) (UInt32.ofNat (9 + fields.extra.length))).at offsetStands
    rwa [length_toBytesBE] at read
  have offsetIs : (UInt32.ofNat (9 + fields.extra.length)).toNat = 9 + fields.extra.length :=
    UInt32.toNat_ofNat_of_lt' fields.short
  have inside : ¬(UInt32.ofNat (9 + fields.extra.length)).toNat < start + 9 - start := by
    omega
  have extraRead : (extractBytes ((UInt32.ofNat (9 + fields.extra.length)).toNat -
      (start + 9 - start)) : Reader IoFault Bytes) data (start + 9) =
        .ok (fields.extra, start + 9 + fields.extra.length) :=
    (Reads.extractBytes (by omega)).at extraStands
  unfold FlvHeader.demux
  rw [bind_ok (show (tell : Reader IoFault Nat) data start = .ok (start, start) from rfl),
    bind_ok signatureRead, if_neg (fun different => different (by decide)), bind_ok versionRead,
    bind_ok flagsRead, bind_ok offsetRead, bind_ok (show (tell : Reader IoFault Nat) data (start + 9) =
      .ok (start + 9, start + 9) from rfl)]
  rw [if_neg inside, bind_ok extraRead, ← Nat.add_assoc]
  rfl

/-- The two parts of a time make it up again. -/
theorem timestamp_joined (time : UInt32) :
    UInt32.ofNat (time.toNat % 2 ^ 24) |||
      (UInt8.ofNat (time.toNat / 2 ^ 24)).toUInt32 <<< 24 = time := by
  have bound := time.toNat_lt
  have low : time.toNat % 2 ^ 24 < 2 ^ 24 := Nat.mod_lt _ (by decide)
  have high : time.toNat / 2 ^ 24 < 2 ^ 8 := by omega
  apply UInt32.toNat_inj.mp
  rw [UInt32.toNat_or, UInt32.toNat_shiftLeft, UInt8.toNat_toUInt32,
    UInt8.toNat_ofNat_of_lt' high, UInt32.toNat_ofNat_of_lt' (Nat.lt_trans low (by decide)),
    show (24 : UInt32).toNat % 32 = 24 from rfl, Nat.shiftLeft_eq,
    Nat.mod_eq_of_lt (show time.toNat / 2 ^ 24 * 2 ^ 24 < 2 ^ 32 by omega), Nat.or_comm,
    Nat.mul_comm, ← Nat.two_pow_add_eq_or_of_lt low]
  omega

namespace TagRecord

/-- A tag is read with all the bytes of its body, whatever the reader of the body leaves. -/
theorem demux_tagBytes (record : TagRecord codecs) :
    Reads (FlvTag.demux codecs) record.tagBytes record.tag := by
  have size : (UInt32.ofNat record.body.length).toNat = record.body.length :=
    UInt32.toNat_ofNat_of_lt' (Nat.lt_trans record.short (by decide))
  have low : (UInt32.ofNat (record.timestampMs.toNat % 2 ^ 24)).toNat =
      record.timestampMs.toNat % 2 ^ 24 :=
    UInt32.toNat_ofNat_of_lt' (Nat.lt_trans (Nat.mod_lt _ (by decide)) (by decide))
  have sizeRead := Reads.readU24 (ε := IoFault) (show
    (UInt32.ofNat record.body.length).toNat < 2 ^ 24 by rw [size]; exact record.short)
  have lowRead := Reads.readU24 (ε := IoFault) (show
    (UInt32.ofNat (record.timestampMs.toNat % 2 ^ 24)).toNat < 2 ^ 24 by
      rw [low]
      exact Nat.mod_lt _ (by decide))
  rw [size] at sizeRead
  rw [low] at lowRead
  have bodyRead := Reads.extractBytes (ε := IoFault) size.symm
  have joined : (⟨UInt32.ofNat (record.timestampMs.toNat % 2 ^ 24) |||
      (UInt8.ofNat (record.timestampMs.toNat / 2 ^ 24)).toUInt32 <<< 24, record.streamId, record.data⟩ :
        FlvTag codecs) = record.tag := by
    rw [timestamp_joined]
    rfl
  have last := (Reads.ofExcept record.accepted).map fun data : FlvTagData codecs =>
    (⟨UInt32.ofNat (record.timestampMs.toNat % 2 ^ 24) |||
      (UInt8.ofNat (record.timestampMs.toNat / 2 ^ 24)).toUInt32 <<< 24, record.streamId, data⟩ :
        FlvTag codecs)
  rw [joined] at last
  exact (Reads.readU8 _).bind (sizeRead.bind (lowRead.bind ((Reads.readU8 _).bind
    ((Reads.readU24 record.narrow).bind (bodyRead.finish last)))))

theorem length_tagBytes (record : TagRecord codecs) :
    record.tagBytes.length = 11 + record.body.length := by
  simp only [tagBytes, List.length_append, List.length_cons, List.length_nil, length_toBytesBE]
  omega

end TagRecord

example : (FlvTagData.demux codecs ⟨1⟩).parse [2, 3] = .ok (.unknown ⟨1⟩ [2, 3]) := rfl

/-- A tag that is read ends where its header and the size in it say. -/
theorem FlvTag.demux_stop {data : Bytes} {position stop : Nat} {tag : FlvTag codecs}
    (read : FlvTag.demux codecs data position = .ok (tag, stop)) :
    stop = position + (11 + ofBytesBE ((data.drop (position + 1)).take 3)) := by
  obtain ⟨tagType, first, typeRead, read⟩ := bind_eq_ok_iff.mp read
  obtain ⟨size, second, sizeRead, read⟩ := bind_eq_ok_iff.mp read
  obtain ⟨low, third, lowRead, read⟩ := bind_eq_ok_iff.mp read
  obtain ⟨high, fourth, highRead, read⟩ := bind_eq_ok_iff.mp read
  obtain ⟨streamId, fifth, idRead, read⟩ := bind_eq_ok_iff.mp read
  obtain ⟨body, sixth, bodyRead, read⟩ := bind_eq_ok_iff.mp read
  obtain ⟨value, last, parsed, done⟩ := bind_eq_ok_iff.mp read
  cases done
  have firstIs : first = position + 1 := (readUint_inside typeRead).2
  subst firstIs
  obtain ⟨sizeIs, rfl⟩ := readU24_eq_ok sizeRead
  obtain ⟨_, rfl⟩ := readU24_eq_ok lowRead
  have fourthIs : fourth = position + 1 + 3 + 3 + 1 := (readUint_inside highRead).2
  obtain ⟨_, rfl⟩ := readU24_eq_ok idRead
  have sixthIs := extractBytes_stop bodyRead
  obtain ⟨_, lastIs⟩ := ok_of_ofExcept parsed
  omega

/-! ## Whole files -/

/-- The loop reads the tags of the records one after the other and stops behind the last size. -/
theorem FlvFile.readTags_bodyBytes (records : List (TagRecord codecs)) (lastTagSize : Option UInt32)
    {rounds : Nat} (enough : records.length < rounds) :
    ReadsLast (FlvFile.readTags codecs rounds) (bodyBytes codecs records lastTagSize)
      (records.map TagRecord.tag) := by
  induction records generalizing rounds with
  | nil =>
      obtain ⟨rounds, rfl⟩ := Nat.exists_eq_succ_of_ne_zero (Nat.ne_of_gt enough)
      cases lastTagSize with
      | none => exact ReadsLast.atEnd _ _
      | some size =>
          have last := (ReadsLast.atEnd [] (do
            let tag ← FlvTag.demux codecs
            let tags ← FlvFile.readTags codecs rounds
            return tag :: tags)).behind (Reads.readU32 size)
          rw [List.append_nil] at last
          exact last.beforeEnd (List.ne_nil_of_length_pos (by rw [length_toBytesBE]; decide)) _
  | cons record records ih =>
      obtain ⟨rounds, rfl⟩ := Nat.exists_eq_succ_of_ne_zero (Nat.ne_of_gt (Nat.zero_lt_of_lt enough))
      have rest := (ih (Nat.lt_of_succ_lt_succ enough)).map fun tags => record.tag :: tags
      have tagRead : ReadsLast (do
          let tag ← FlvTag.demux codecs
          let tags ← FlvFile.readTags codecs rounds
          return tag :: tags) (record.tagBytes ++ bodyBytes codecs records lastTagSize) _ :=
        record.demux_tagBytes.bindLast rest
      have tagged := tagRead.beforeEnd
        (List.ne_nil_of_length_pos (by rw [List.length_append, record.length_tagBytes]; omega))
        (pure [])
      have sized := (tagged.behind (Reads.readU32 (ε := IoFault) record.previousTagSize)).beforeEnd
        (List.ne_nil_of_length_pos (by rw [List.length_append, length_toBytesBE]; omega)) (pure [])
      have together : bodyBytes codecs (record :: records) lastTagSize =
          beU32 record.previousTagSize ++ (record.tagBytes ++ bodyBytes codecs records lastTagSize) := by
        simp only [bodyBytes, TagRecord.bytes, List.flatMap_cons, List.append_assoc]
      rw [together]
      exact sized

theorem FlvFile.length_records (records : List (TagRecord codecs)) (lastTagSize : Option UInt32) :
    records.length ≤ (bodyBytes codecs records lastTagSize).length := by
  induction records with
  | nil => exact Nat.zero_le _
  | cons record records ih =>
      rw [bodyBytes] at ih ⊢
      rw [List.flatMap_cons, List.append_assoc, List.length_append, TagRecord.bytes,
        List.length_append, length_beU32, List.length_cons]
      omega

/-- A file is read back: its header, and its tags in their order. -/
theorem FlvFile.demux_bytes (fields : HeaderFields) (records : List (TagRecord codecs))
    (lastTagSize : Option UInt32) :
    ReadsLast (FlvFile.demux codecs) (fields.bytes ++ bodyBytes codecs records lastTagSize)
      ⟨fields.header, records.map TagRecord.tag⟩ := by
  refine fields.demux_bytes.bindLast ?_
  intro before
  have rounds : (before ++ bodyBytes codecs records lastTagSize).length - before.length =
      (bodyBytes codecs records lastTagSize).length := by
    rw [List.length_append, Nat.add_sub_cancel_left]
  have read := (FlvFile.readTags_bodyBytes records lastTagSize
    (Nat.lt_succ_of_le (length_records records lastTagSize))).map fun tags =>
      (⟨fields.header, tags⟩ : FlvFile codecs)
  rw [bind_ok (show (remaining : Reader IoFault Nat) (before ++ bodyBytes codecs records lastTagSize)
    before.length = .ok (_, before.length) from rfl), rounds]
  exact read before

end Flv

end ScuffleVideo
