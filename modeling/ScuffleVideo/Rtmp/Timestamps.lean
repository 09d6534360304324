import ScuffleVideo.Rtmp.MessageChunks

/-!
# Timestamps of delta headers

Type1 and Type2 headers carry the distance to the previous timestamp.  The Type1
branch keeps the previous timestamp when the sum overflows; the Type2 branch
adds without a check.  Type3 headers repeat the previous header as it is, also
when they start a message, so no delta is ever applied twice.
-/

namespace ScuffleVideo.Rtmp

open Wire Wire.Reader

/-! ## One delta header -/

/-- The timestamp a delta leads to: the sum, or the previous timestamp where the
sum has no place in thirty-two bits. -/
def deltaTimestamp (previous delta : Nat) : Nat :=
  if previous + delta < 2 ^ 32 then previous + delta else previous

theorem le_deltaTimestamp (previous delta : Nat) : previous ≤ deltaTimestamp previous delta := by
  unfold deltaTimestamp
  split
  · exact Nat.le_add_right _ _
  · exact Nat.le_refl _

theorem toNat_checkedTimestamp (previous delta : UInt32) :
    (ChunkDecoder.checkedTimestamp previous delta).toNat =
      deltaTimestamp previous.toNat delta.toNat := by
  unfold ChunkDecoder.checkedTimestamp deltaTimestamp
  split
  · rename_i fits
    rw [UInt32.toNat_add, Nat.mod_eq_of_lt fits]
  · rfl

/-- The decoder reads the header, wherever its bytes stand, and finds the given
timestamp in it. -/
def YieldsTimestamp (checks : OverflowChecks) (decoder : ChunkDecoder) (csid : UInt32)
    (wire : WireHeader) (timestamp : Nat) : Prop :=
  ∃ messageHeader,
    Reads (decoder.readMessageHeader checks ⟨wire.format, csid⟩) wire.bytes messageHeader ∧
    messageHeader.timestamp.toNat = timestamp

section OneHeader

variable {checks : OverflowChecks} {decoder : ChunkDecoder} {csid : UInt32}
  {previous : ChunkMessageHeader}

theorem type1_yields (found : decoder.previousChunkHeaders.lookup csid = some previous)
    (delta : TimeField) {msgLength : UInt32}
    (small : msgLength.toNat ≤ Limits.maxPartialChunkSize) (msgTypeId : MessageTypeID) :
    YieldsTimestamp checks decoder csid (.type1 delta msgLength msgTypeId)
      (deltaTimestamp previous.timestamp.toNat delta.value.toNat) :=
  ⟨_, readType1_reads checks found delta small msgTypeId, toNat_checkedTimestamp _ _⟩

/-- What reading a Type2 header says about the sum. -/
theorem type2_reads (found : decoder.previousChunkHeaders.lookup csid = some previous)
    {delta : TimeField} {messageHeader : ChunkMessageHeader}
    (read : Reads (decoder.readMessageHeader checks ⟨.type2, csid⟩)
      (WireHeader.type2 delta).bytes messageHeader) :
    (checks = .off ∨ previous.timestamp.toNat + delta.value.toNat < 2 ^ 32) ∧
      messageHeader = ⟨previous.timestamp + delta.value, previous.msgLength, previous.msgTypeId,
        previous.msgStreamId, delta.isExtended⟩ := by
  have result := (readType2_apply checks found delta [] []).symm.trans (read [] [])
  split at result
  · rename_i fits
    cases result
    exact ⟨fits, rfl⟩
  · cases result

/-- A sum that overflows wraps below the previous timestamp. -/
theorem toNat_add_lt {first delta : UInt32} (overflows : 2 ^ 32 ≤ first.toNat + delta.toNat) :
    (first + delta).toNat < first.toNat := by
  have bound := delta.toNat_lt
  have start := first.toNat_lt
  rw [UInt32.toNat_add]
  omega

/-- A Type2 header never yields the previous timestamp or a later one unless
the sum fits. -/
theorem type2_fits (found : decoder.previousChunkHeaders.lookup csid = some previous)
    {delta : TimeField} {messageHeader : ChunkMessageHeader}
    (read : Reads (decoder.readMessageHeader checks ⟨.type2, csid⟩)
      (WireHeader.type2 delta).bytes messageHeader)
    (later : previous.timestamp.toNat ≤ messageHeader.timestamp.toNat) :
    previous.timestamp.toNat + delta.value.toNat < 2 ^ 32 := by
  obtain ⟨_, rfl⟩ := type2_reads found read
  refine Nat.lt_of_not_le fun overflows => ?_
  exact Nat.not_lt_of_le later (toNat_add_lt overflows)

theorem type2_reads_of_fits (found : decoder.previousChunkHeaders.lookup csid = some previous)
    {delta : TimeField} (fits : previous.timestamp.toNat + delta.value.toNat < 2 ^ 32) :
    Reads (decoder.readMessageHeader checks ⟨.type2, csid⟩) (WireHeader.type2 delta).bytes
      ⟨previous.timestamp + delta.value, previous.msgLength, previous.msgTypeId,
        previous.msgStreamId, delta.isExtended⟩ := by
  intro before after
  exact (readType2_apply checks found delta before after).trans (if_pos (.inr fits))

theorem type2_yields_iff (found : decoder.previousChunkHeaders.lookup csid = some previous)
    (delta : TimeField) :
    YieldsTimestamp checks decoder csid (.type2 delta)
        (deltaTimestamp previous.timestamp.toNat delta.value.toNat) ↔
      previous.timestamp.toNat + delta.value.toNat < 2 ^ 32 := by
  constructor
  · rintro ⟨messageHeader, read, timestamp⟩
    refine type2_fits found read ?_
    rw [timestamp]
    exact le_deltaTimestamp _ _
  · intro fits
    refine ⟨_, type2_reads_of_fits found fits, ?_⟩
    rw [deltaTimestamp, if_pos fits, UInt32.toNat_add, Nat.mod_eq_of_lt fits]

end OneHeader

/-! ## Sequences of delta headers -/

/-- A Type1 or Type2 header of an allowed length. -/
def WireHeader.IsDelta : WireHeader → Prop
  | .type1 _ msgLength _ => msgLength.toNat ≤ Limits.maxPartialChunkSize
  | .type2 _ => True
  | _ => False

/-- Headers read one after the other on a chunk stream, each stored before the
next is read. -/
inductive DecodesHeaders (checks : OverflowChecks) (csid : UInt32) :
    ChunkDecoder → List WireHeader → List ChunkMessageHeader → Prop
  | nil (decoder : ChunkDecoder) : DecodesHeaders checks csid decoder [] []
  | cons {decoder : ChunkDecoder} {wire : WireHeader} {wires : List WireHeader}
      {header : ChunkMessageHeader} {headers : List ChunkMessageHeader}
      (read : Reads (decoder.readMessageHeader checks ⟨wire.format, csid⟩) wire.bytes header)
      (rest : DecodesHeaders checks csid (decoder.insertHeader csid header) wires headers) :
      DecodesHeaders checks csid decoder (wire :: wires) (header :: headers)

/-- From the given timestamp on, no delta of a Type2 header overflows. -/
def Type2Fits : Nat → List WireHeader → Prop
  | _, [] => True
  | timestamp, .type1 delta _ _ :: wires =>
      Type2Fits (deltaTimestamp timestamp delta.value.toNat) wires
  | timestamp, .type2 delta :: wires =>
      timestamp + delta.value.toNat < 2 ^ 32 ∧ Type2Fits (timestamp + delta.value.toNat) wires
  | timestamp, _ :: wires => Type2Fits timestamp wires

theorem DecodesHeaders.uncons {checks : OverflowChecks} {csid : UInt32} {decoder : ChunkDecoder}
    {wire : WireHeader} {wires : List WireHeader} {headers : List ChunkMessageHeader}
    (decodes : DecodesHeaders checks csid decoder (wire :: wires) headers) :
    ∃ header rest, headers = header :: rest ∧
      Reads (decoder.readMessageHeader checks ⟨wire.format, csid⟩) wire.bytes header ∧
      DecodesHeaders checks csid (decoder.insertHeader csid header) wires rest := by
  cases decodes with
  | cons read rest => exact ⟨_, _, rfl, read, rest⟩

/-- A reader that consumes the same bytes twice finds the same value. -/
theorem reads_unique {reader : HeaderReader ChunkMessageHeader} {bytes : Bytes}
    {first second : ChunkMessageHeader} (one : Reads reader bytes first)
    (other : Reads reader bytes second) : first = second := by
  have same := one.run.symm.trans other.run
  cases same
  rfl

/-- A non-decreasing continuation from `header` goes on from `previous` when
`header` is not earlier. -/
theorem pairwise_from {previous header : Nat} {timestamps : List Nat}
    (later : previous ≤ header) (rest : (header :: timestamps).Pairwise (· ≤ ·)) :
    (previous :: header :: timestamps).Pairwise (· ≤ ·) := by
  refine List.pairwise_cons.mpr ⟨fun timestamp member => ?_, rest⟩
  rcases List.mem_cons.mp member with rfl | further
  · exact later
  · exact Nat.le_trans later ((List.pairwise_cons.mp rest).1 timestamp further)

/-- After a stored header, delta headers decode to non-decreasing timestamps
exactly when the Type2 sums among them fit. -/
theorem decodes_deltas_iff {checks : OverflowChecks} {csid : UInt32} {wires : List WireHeader} :
    ∀ {decoder : ChunkDecoder} {previous : ChunkMessageHeader},
      (∀ wire ∈ wires, wire.IsDelta) →
      decoder.previousChunkHeaders.lookup csid = some previous →
      ((∃ headers, DecodesHeaders checks csid decoder wires headers ∧
        (previous.timestamp.toNat :: headers.map (·.timestamp.toNat)).Pairwise (· ≤ ·)) ↔
        Type2Fits previous.timestamp.toNat wires) := by
  induction wires with
  | nil =>
      intro decoder previous _ _
      exact ⟨fun _ => trivial, fun _ => ⟨[], .nil _, List.pairwise_singleton _ _⟩⟩
  | cons wire wires ih =>
      intro decoder previous deltas found
      have restDeltas := fun other member => deltas other (List.mem_cons_of_mem wire member)
      have wireDelta := deltas wire List.mem_cons_self
      cases wire with
      | type0 time msgLength msgTypeId msgStreamId => exact wireDelta.elim
      | type3 extension => exact wireDelta.elim
      | type1 delta msgLength msgTypeId =>
          have read := readType1_reads checks found delta wireDelta msgTypeId
          have timestamp := toNat_checkedTimestamp previous.timestamp delta.value
          have step := ih restDeltas
            (ChunkDecoder.lookup_insertHeader decoder csid
              ⟨ChunkDecoder.checkedTimestamp previous.timestamp delta.value, msgLength, msgTypeId,
                previous.msgStreamId, delta.isExtended⟩)
          rw [Type2Fits, ← timestamp, ← step]
          constructor
          · rintro ⟨headers, decodes, ordered⟩
            obtain ⟨header, rest, rfl, headerRead, restDecodes⟩ := decodes.uncons
            obtain rfl := reads_unique headerRead read
            exact ⟨rest, restDecodes, (List.pairwise_cons.mp ordered).2⟩
          · rintro ⟨rest, decodes, ordered⟩
            have later : previous.timestamp.toNat ≤
                (ChunkDecoder.checkedTimestamp previous.timestamp delta.value).toNat := by
              rw [timestamp]
              exact le_deltaTimestamp _ _
            exact ⟨_, .cons read decodes, pairwise_from later ordered⟩
      | type2 delta =>
          have step := ih restDeltas
            (ChunkDecoder.lookup_insertHeader decoder csid
              ⟨previous.timestamp + delta.value, previous.msgLength, previous.msgTypeId,
                previous.msgStreamId, delta.isExtended⟩)
          rw [Type2Fits]
          constructor
          · rintro ⟨headers, decodes, ordered⟩
            obtain ⟨header, rest, rfl, headerRead, restDecodes⟩ := decodes.uncons
            have later := (List.pairwise_cons.mp ordered).1 _ List.mem_cons_self
            have fits := type2_fits found headerRead later
            obtain ⟨_, rfl⟩ := type2_reads found headerRead
            refine ⟨fits, ?_⟩
            rw [← Nat.mod_eq_of_lt fits, ← UInt32.toNat_add, ← step]
            exact ⟨rest, restDecodes, (List.pairwise_cons.mp ordered).2⟩
          · rintro ⟨fits, restFits⟩
            rw [← Nat.mod_eq_of_lt fits, ← UInt32.toNat_add, ← step] at restFits
            obtain ⟨rest, decodes, ordered⟩ := restFits
            have later : previous.timestamp.toNat ≤
                (previous.timestamp + delta.value).toNat := by
              rw [UInt32.toNat_add, Nat.mod_eq_of_lt fits]
              exact Nat.le_add_right _ _
            exact ⟨_, .cons (type2_reads_of_fits found fits) decodes, pairwise_from later ordered⟩

/-- Both delta headers yield the sum, or the previous timestamp where the sum
does not fit, exactly when it fits.  Headers after a Type0 header decode to
non-decreasing timestamps exactly when every Type2 sum among them fits. -/
theorem delta_timestamps_iff (checks : OverflowChecks) :
    (∀ (decoder : ChunkDecoder) (csid : UInt32) (previous : ChunkMessageHeader),
      decoder.previousChunkHeaders.lookup csid = some previous →
      ∀ (delta : TimeField) (msgLength : UInt32) (msgTypeId : MessageTypeID),
        msgLength.toNat ≤ Limits.maxPartialChunkSize →
        ((YieldsTimestamp checks decoder csid (.type1 delta msgLength msgTypeId)
            (deltaTimestamp previous.timestamp.toNat delta.value.toNat) ∧
          YieldsTimestamp checks decoder csid (.type2 delta)
            (deltaTimestamp previous.timestamp.toNat delta.value.toNat)) ↔
          previous.timestamp.toNat + delta.value.toNat < 2 ^ 32)) ∧
    ∀ (decoder : ChunkDecoder) (csid : UInt32) (time : TimeField) (msgLength : UInt32)
      (msgTypeId : MessageTypeID) (msgStreamId : UInt32) (wires : List WireHeader),
      msgLength.toNat ≤ Limits.maxPartialChunkSize → (∀ wire ∈ wires, wire.IsDelta) →
      ((∃ headers, DecodesHeaders checks csid decoder
          (.type0 time msgLength msgTypeId msgStreamId :: wires) headers ∧
          (headers.map (·.timestamp.toNat)).Pairwise (· ≤ ·)) ↔
        Type2Fits time.value.toNat wires) := by
  refine ⟨?_, ?_⟩
  · intro decoder csid previous found delta msgLength msgTypeId small
    rw [type2_yields_iff found]
    exact ⟨And.right, fun fits => ⟨type1_yields found delta small msgTypeId, fits⟩⟩
  · intro decoder csid time msgLength msgTypeId msgStreamId wires small deltas
    have read : Reads (decoder.readMessageHeader checks ⟨.type0, csid⟩)
        (WireHeader.type0 time msgLength msgTypeId msgStreamId).bytes
        ⟨time.value, msgLength, msgTypeId, msgStreamId, time.isExtended⟩ := by
      have resolved : (WireHeader.type0 time msgLength msgTypeId msgStreamId).resolve
          (decoder.previousChunkHeaders.lookup csid) =
            some ⟨time.value, msgLength, msgTypeId, msgStreamId, time.isExtended⟩ := if_pos small
      exact readMessageHeader_reads resolved
    have step := @decodes_deltas_iff checks csid wires _ _ deltas
      (ChunkDecoder.lookup_insertHeader decoder csid
        ⟨time.value, msgLength, msgTypeId, msgStreamId, time.isExtended⟩)
    rw [← step]
    constructor
    · rintro ⟨headers, decodes, ordered⟩
      obtain ⟨header, rest, rfl, headerRead, restDecodes⟩ := decodes.uncons
      obtain rfl := reads_unique headerRead read
      exact ⟨rest, restDecodes, ordered⟩
    · rintro ⟨rest, decodes, ordered⟩
      exact ⟨_, .cons read decodes, ordered⟩

/-- A stored timestamp of one hundred and a delta of ten, with a Type1 and a
Type2 header after a Type0 header. -/
theorem delta_timestamps_at_hundred :
    YieldsTimestamp .on (ChunkDecoder.default.insertHeader 3 ⟨100, 0, .video, 1, false⟩) 3
      (.type2 (.short 10 (by decide))) 110 ∧
    ∃ headers, DecodesHeaders .on 3 ChunkDecoder.default
      [.type0 (.short 100 (by decide)) 0 .video 1, .type1 (.short 10 (by decide)) 0 .video,
        .type2 (.extended 20)] headers ∧
      (headers.map (·.timestamp.toNat)).Pairwise (· ≤ ·) := by
  refine ⟨?_, ?_⟩
  · exact (((delta_timestamps_iff .on).1 _ 3 _ (ChunkDecoder.lookup_insertHeader _ _ _)
      (.short 10 (by decide)) 0 .video (by decide)).mpr (by decide)).2
  · refine ((delta_timestamps_iff .on).2 ChunkDecoder.default 3 (.short 100 (by decide)) 0 .video 1
      [.type1 (.short 10 (by decide)) 0 .video, .type2 (.extended 20)] (by decide) ?_).mpr ?_
    · intro wire member
      rcases List.mem_cons.mp member with rfl | member
      · exact Nat.zero_le _
      · obtain rfl := List.mem_singleton.mp member
        trivial
    · exact ⟨by decide, trivial⟩

/-- The latest timestamp there is, on an empty message. -/
def lateMessage : Bytes :=
  [3, 0xFF, 0xFF, 0xFF, 0, 0, 0, 9, 1, 0, 0, 0, 0xFF, 0xFF, 0xFF, 0xFF]

def lateDecoder : ChunkDecoder := (ChunkDecoder.default.readChunk .on lateMessage).2.1

/-- A delta of one after the latest timestamp: the Type1 header keeps the
previous timestamp, the Type2 header traps or restarts at zero. -/
theorem type2_overflows_after_late :
    ¬ YieldsTimestamp .on lateDecoder 3 (.type2 (.short 1 (by decide)))
      (deltaTimestamp 0xFFFFFFFF 1) ∧
    ¬ YieldsTimestamp .off lateDecoder 3 (.type2 (.short 1 (by decide)))
      (deltaTimestamp 0xFFFFFFFF 1) ∧
    (lateDecoder.readChunk .on [0x83, 0, 0, 1]).1 = .error (.overflow .timestamp) ∧
    (lateDecoder.readChunk .off [0x83, 0, 0, 1]).1 =
      .ok (some ⟨⟨.type2, 3⟩, ⟨0, 0, .video, 1, false⟩, []⟩) ∧
    (lateDecoder.readChunk .on [0x43, 0, 0, 1, 0, 0, 0, 9]).1 =
      .ok (some ⟨⟨.type1, 3⟩, ⟨0xFFFFFFFF, 0, .video, 1, false⟩, []⟩) := by
  have found : lateDecoder.previousChunkHeaders.lookup 3 =
      some ⟨0xFFFFFFFF, 0, .video, 1, true⟩ := by decide +kernel
  refine ⟨fun yields => ?_, fun yields => ?_, by decide +kernel, by decide +kernel,
    by decide +kernel⟩
  · exact absurd ((type2_yields_iff found _).mp yields) (by decide)
  · exact absurd ((type2_yields_iff found _).mp yields) (by decide)

/-! ## Type3 headers that start a message -/

/-- The timestamps of messages from the headers that start them: a Type0 header
gives it, a Type1 or Type2 header adds to the previous one, and a Type3 header
repeats the previous one. -/
def startTimestamps : UInt32 → List WireHeader → List UInt32
  | _, [] => []
  | _, .type0 time _ _ _ :: wires => time.value :: startTimestamps time.value wires
  | previous, .type1 delta _ _ :: wires =>
      (previous + delta.value) :: startTimestamps (previous + delta.value) wires
  | previous, .type2 delta :: wires =>
      (previous + delta.value) :: startTimestamps (previous + delta.value) wires
  | previous, .type3 _ :: wires => previous :: startTimestamps previous wires

/-- Messages sent one after the other on one chunk stream: each starts with a
header of any type that the previous one allows, its sum in range, and goes on
with Type3 chunks. -/
inductive SendsMessages (chunkSize : Nat) (csid : UInt32) :
    Option ChunkMessageHeader → List (WireChunk × List WireChunk) → Prop
  | nil (previous : Option ChunkMessageHeader) : SendsMessages chunkSize csid previous []
  | cons {previous : Option ChunkMessageHeader} {header : ChunkMessageHeader}
      {first : WireChunk} {rest : List WireChunk} {messages : List (WireChunk × List WireChunk)}
      (stream : first.csid = csid) (fits : first.form.Fits csid)
      (starts : first.header.resolve previous = some header)
      (continues : ∀ chunk ∈ rest, chunk.Continues csid header)
      (length : header.msgLength.toNat = ((first :: rest).flatMap WireChunk.payload).length)
      (cut : FullyCut chunkSize ((first :: rest).map WireChunk.payload))
      (later : SendsMessages chunkSize csid (some header) messages) :
      SendsMessages chunkSize csid previous ((first, rest) :: messages)

theorem startTimestamps_cons {wire : WireHeader} {previous : Option ChunkMessageHeader}
    {header : ChunkMessageHeader} (starts : wire.resolve previous = some header)
    (wires : List WireHeader) :
    startTimestamps ((previous.map (·.timestamp)).getD 0) (wire :: wires) =
      header.timestamp :: startTimestamps header.timestamp wires := by
  cases WireHeader.resolve_cases starts with
  | type0 time msgTypeId msgStreamId small => rfl
  | type1 previous delta msgTypeId small fits => rfl
  | type2 previous delta fits => rfl
  | type3 previous repeated => rfl

/-- A stream follows messages of any types and delivers each with the timestamp
of its start. -/
theorem SendsMessages.follows {chunkSize : Nat} {csid : UInt32}
    {previous : Option ChunkMessageHeader} {messages : List (WireChunk × List WireChunk)}
    (sends : SendsMessages chunkSize csid previous messages) :
    ∃ marked last, StreamState.Follows chunkSize ⟨previous, []⟩ marked last ∧
      marked.map Prod.fst = messages.flatMap (fun message => message.1 :: message.2) ∧
      (∀ entry ∈ marked, entry.1.csid = csid) ∧
      (marked.filterMap Prod.snd).map Message.timestamp =
        startTimestamps ((previous.map (·.timestamp)).getD 0)
          (messages.map fun message => message.1.header) ∧
      (marked.filterMap Prod.snd).map Message.payload =
        messages.map fun message => (message.1 :: message.2).flatMap WireChunk.payload := by
  induction sends with
  | nil previous => exact ⟨[], _, .done _, rfl, by simp, rfl, rfl⟩
  | @cons previous header first rest messages stream fits starts continues length cut later ih =>
      obtain ⟨marked, last, follows, chunks, own, timestamps, payloads⟩ := ih
      have message : StreamState.Follows chunkSize ⟨previous, []⟩
          (markLast ⟨csid, header.timestamp, header.msgLength, header.msgTypeId,
            header.msgStreamId, (first :: rest).flatMap WireChunk.payload⟩ (first :: rest))
          ⟨some header, []⟩ :=
        StreamState.follows_message length stream fits starts (.inl rfl) continues rfl cut
      refine ⟨_, last, message.append follows, ?_, ?_, ?_, ?_⟩
      · rw [List.map_append, map_fst_markLast, chunks, List.flatMap_cons]
      · intro entry member
        rcases List.mem_append.mp member with inside | further
        · refine markLast_csid (fun chunk among => ?_) entry inside
          rcases List.mem_cons.mp among with rfl | among
          · exact stream
          · exact (continues chunk among).1
        · exact own entry further
      · rw [List.filterMap_append, filterMap_snd_markLast _ (List.cons_ne_nil _ _),
          List.map_append, timestamps]
        exact (startTimestamps_cons starts _).symm
      · rw [List.filterMap_append, filterMap_snd_markLast _ (List.cons_ne_nil _ _),
          List.map_append, payloads]
        rfl

/-- On one chunk stream with messages of any types, a message that a Type3
header starts has the timestamp of the message before it, one that a Type1 or
Type2 header starts has that timestamp plus its own delta, and the Type3 chunks
that continue a message do not change its timestamp. -/
theorem type3_start_repeats_timestamp (checks : OverflowChecks) {chunkSize : Nat}
    (least : 128 ≤ chunkSize) (most : chunkSize ≤ 65536) {csid : UInt32}
    {messages : List (WireChunk × List WireChunk)}
    (sends : SendsMessages chunkSize csid none messages) :
    ∃ returned last, ChunkDecoder.Delivers checks
        (ChunkDecoder.default.updateMaxChunkSize chunkSize).2
        (messages.flatMap fun message => (message.1 :: message.2).flatMap WireChunk.bytes)
        returned last [] ∧
      returned.map (·.messageHeader.timestamp) =
        startTimestamps 0 (messages.map fun message => message.1.header) ∧
      returned.map Chunk.payload =
        messages.map fun message => (message.1 :: message.2).flatMap WireChunk.payload := by
  obtain ⟨marked, final, follows, chunks, own, timestamps, payloads⟩ := sends.follows
  have few : [csid].length ≤ Limits.maxPreviousChunkHeaders := by
    rw [List.length_singleton]
    decide
  have follows : StreamState.Follows chunkSize (Assembler.initial csid) marked final := follows
  obtain ⟨outputs, run, delivered⟩ := Assembler.Run.of_stream few (fun _ _ => rfl) (fun _ => rfl)
    (List.mem_singleton_self csid) own follows
  obtain ⟨last, _, delivers⟩ := run.delivers least most checks
  rw [chunks, List.flatMap_assoc] at delivers
  refine ⟨outputs, last, delivers, ?_, ?_⟩
  · rw [← delivered, List.map_map] at timestamps
    exact timestamps
  · rw [← delivered, List.map_map] at payloads
    exact payloads

/-- Three messages of one byte: a Type0 start, a Type1 start with a delta of ten,
and a Type3 start. -/
def compressedMessages : List (WireChunk × List WireChunk) :=
  [(⟨.one, 3, .type0 (.short 100 (by decide)) 1 .video 1, [1]⟩, []),
    (⟨.one, 3, .type1 (.short 10 (by decide)) 1 .video, [2]⟩, []),
    (⟨.one, 3, .type3 none, [3]⟩, [])]

theorem compressedMessages_sent : SendsMessages 128 3 none compressedMessages := by
  have nothing (header : ChunkMessageHeader) :
      ∀ chunk ∈ ([] : List WireChunk), chunk.Continues 3 header := by simp
  refine .cons rfl ⟨by decide, by decide⟩ rfl (nothing _) rfl
    (by decide : [(1 : UInt8)].length ≤ 128) ?_
  refine .cons rfl ⟨by decide, by decide⟩ rfl (nothing _) rfl
    (by decide : [(2 : UInt8)].length ≤ 128) ?_
  exact .cons rfl ⟨by decide, by decide⟩ rfl (nothing _) rfl
    (by decide : [(3 : UInt8)].length ≤ 128) (.nil _)

theorem compressedMessages_timestamps :
    ∃ returned last, ChunkDecoder.Delivers .on
        (ChunkDecoder.default.updateMaxChunkSize 128).2
        (compressedMessages.flatMap fun message =>
          (message.1 :: message.2).flatMap WireChunk.bytes) returned last [] ∧
      returned.map (·.messageHeader.timestamp) = [100, 110, 110] ∧
      returned.map Chunk.payload = [[1], [2], [3]] :=
  type3_start_repeats_timestamp .on (Nat.le_refl 128) (by decide) compressedMessages_sent

/-- The timestamps with the latest delta since the last Type0 header applied
again by every Type3 header that starts a message. -/
def reappliedTimestamps : UInt32 → Option UInt32 → List WireHeader → List UInt32
  | _, _, [] => []
  | _, _, .type0 time _ _ _ :: wires => time.value :: reappliedTimestamps time.value none wires
  | previous, _, .type1 delta _ _ :: wires =>
      (previous + delta.value) ::
        reappliedTimestamps (previous + delta.value) (some delta.value) wires
  | previous, _, .type2 delta :: wires =>
      (previous + delta.value) ::
        reappliedTimestamps (previous + delta.value) (some delta.value) wires
  | previous, latest, .type3 _ :: wires =>
      (previous + latest.getD 0) :: reappliedTimestamps (previous + latest.getD 0) latest wires

/-- The decoder does not apply the delta of ten a second time. -/
theorem type3_start_does_not_reapply :
    SendsMessages 128 3 none compressedMessages ∧
    ∀ returned last left, ChunkDecoder.Delivers .on
      (ChunkDecoder.default.updateMaxChunkSize 128).2
      (compressedMessages.flatMap fun message =>
        (message.1 :: message.2).flatMap WireChunk.bytes) returned last left →
      returned.map (·.messageHeader.timestamp) ≠
        reappliedTimestamps 0 none (compressedMessages.map fun message => message.1.header) := by
  refine ⟨compressedMessages_sent, fun returned last left delivers => ?_⟩
  have actual : ChunkDecoder.Delivers .on (ChunkDecoder.default.updateMaxChunkSize 128).2
      (compressedMessages.flatMap fun message =>
        (message.1 :: message.2).flatMap WireChunk.bytes)
      [⟨⟨.type0, 3⟩, ⟨100, 1, .video, 1, false⟩, [1]⟩,
        ⟨⟨.type1, 3⟩, ⟨110, 1, .video, 1, false⟩, [2]⟩,
        ⟨⟨.type3, 3⟩, ⟨110, 1, .video, 1, false⟩, [3]⟩] _ _ :=
    .message (Prod.ext (by decide +kernel) rfl) (.message (Prod.ext (by decide +kernel) rfl)
      (.message (Prod.ext (by decide +kernel) rfl) (.finished (Prod.ext (by decide +kernel) rfl))))
  rw [delivers.unique actual]
  decide

end ScuffleVideo.Rtmp
