import ScuffleVideo.Wire.Cursor

/-!
# The server side of the handshake

The server reads C0 and C1, answers with S0, S1 and S2, and passes over C2.  The
complex form carries a digest in C1 and signs its answer; a client whose C1 has no
valid digest is answered in the simple form.  The keyed hash, the clock and the
random bytes come from outside.
-/

namespace ScuffleVideo.Rtmp.Handshake

open Wire Wire.Reader

/-- The size of C1, S1, C2 and S2. -/
def rtmpHandshakeSize : Nat := 1536

def rtmpServerVersion : UInt32 := 0x04050001

def rtmpDigestLength : Nat := 32

def timeVersionLength : Nat := 8

def chunkLength : Nat := (rtmpHandshakeSize - timeVersionLength) / 2

def rtmpServerKeyFirstHalf : Bytes :=
  "Genuine Adobe Flash Media Server 001".toList.map fun char => char.toNat.toUInt8

def rtmpClientKeyFirstHalf : Bytes :=
  "Genuine Adobe Flash Player 001".toList.map fun char => char.toNat.toUInt8

def rtmpServerKey : Bytes :=
  [0x47, 0x65, 0x6e, 0x75, 0x69, 0x6e, 0x65, 0x20, 0x41, 0x64, 0x6f, 0x62, 0x65, 0x20, 0x46, 0x6c,
    0x61, 0x73, 0x68, 0x20, 0x4d, 0x65, 0x64, 0x69, 0x61, 0x20, 0x53, 0x65, 0x72, 0x76, 0x65, 0x72,
    0x20, 0x30, 0x30, 0x31, 0xf0, 0xee, 0xc2, 0x4a, 0x80, 0x68, 0xbe, 0xe8, 0x2e, 0x00, 0xd0, 0xd1,
    0x02, 0x9e, 0x7e, 0x57, 0x6e, 0xec, 0x5d, 0x2d, 0x29, 0x80, 0x6f, 0xab, 0x93, 0xb8, 0xe6, 0x36,
    0xcf, 0xeb, 0x31, 0xae]

inductive SchemaVersion where
  | schema0
  | schema1
  deriving DecidableEq, Repr

inductive RtmpVersion where
  | unknown
  | version3
  deriving DecidableEq, Repr

def RtmpVersion.toU8 : RtmpVersion → UInt8
  | .unknown => 0x0
  | .version3 => 0x3

inductive ServerHandshakeState where
  | readC0C1
  | writeS0S1S2
  | readC2
  | finish
  deriving DecidableEq, Repr

/-- How a call of the handshake ends other than by returning. -/
inductive HandshakeFault where
  | cannotGenerate
  | io
  | panic
  deriving DecidableEq, Repr

instance : Starving HandshakeFault := ⟨.io⟩

/-- What the handshake takes from outside: the keyed hash, and for each answer the
two times and the random bytes of S1 and S2. -/
structure Surroundings where
  hmacSha256 : Bytes → Bytes → Vector UInt8 32
  firstTime : UInt32
  secondTime : UInt32
  firstRandom : Nat → UInt8
  secondRandom : Nat → UInt8

/-- Every byte and every time from outside is zero. -/
def quiet : Surroundings := ⟨fun _ _ => Vector.replicate 32 0, 0, 0, fun _ => 0, fun _ => 0⟩

def randomBytes (random : Nat → UInt8) (count : Nat) : Bytes := (List.range count).map random

variable (surroundings : Surroundings)

/-! ## Digests -/

namespace DigestProcessor

def makeDigest (key left right : Bytes) : Bytes :=
  (surroundings.hmacSha256 key (left ++ right)).toList

def schemaOffset : SchemaVersion → Nat
  | .schema0 => chunkLength + timeVersionLength
  | .schema1 => timeVersionLength

/-- Four bytes are added up; a missing one is a panic. -/
def findDigestOffset (data : Bytes) (version : SchemaVersion) : Except HandshakeFault Nat :=
  let offset := schemaOffset version
  match data[offset]?, data[offset + 1]?, data[offset + 2]?, data[offset + 3]? with
  | some first, some second, some third, some fourth =>
      .ok ((first.toNat + second.toNat + third.toNat + fourth.toNat) %
        (chunkLength - rtmpDigestLength - 4) + offset + 4)
  | _, _, _, _ => .error .panic

/-- The parts before the digest, the digest and the part after it.  A slice out of
range is a panic. -/
def cookRawMessage (data : Bytes) (version : SchemaVersion) :
    Except HandshakeFault (Bytes × Bytes × Bytes) := do
  let offset ← findDigestOffset data version
  if offset + rtmpDigestLength ≤ data.length then
    return (data.take offset, (data.drop offset).take rtmpDigestLength,
      data.drop (offset + rtmpDigestLength))
  else throw .panic

def generateAndValidate (key data : Bytes) (version : SchemaVersion) :
    Except HandshakeFault Bytes := do
  let (left, digest, right) ← cookRawMessage data version
  if digest = makeDigest surroundings key left right then return digest
  else throw .cannotGenerate

def readDigest (key data : Bytes) : Except HandshakeFault (Bytes × SchemaVersion) :=
  match generateAndValidate surroundings key data .schema0 with
  | .ok digest => .ok (digest, .schema0)
  | .error .panic => .error .panic
  | .error _ => do
      let digest ← generateAndValidate surroundings key data .schema1
      return (digest, .schema1)

def generateAndFillDigest (key data : Bytes) (version : SchemaVersion) :
    Except HandshakeFault (Bytes × Bytes × Bytes) := do
  let (left, _, right) ← cookRawMessage data version
  return (left, makeDigest surroundings key left right, right)

end DigestProcessor

/-! ## The simple form -/

structure SimpleHandshakeServer where
  version : RtmpVersion
  requestedVersion : RtmpVersion
  state : ServerHandshakeState
  c1Bytes : Bytes
  c1Timestamp : UInt32

def versionOf (byte : UInt8) : RtmpVersion := if byte = 3 then .version3 else .unknown

namespace SimpleHandshakeServer

def default : SimpleHandshakeServer := ⟨.unknown, .unknown, .readC0C1, [], 0⟩

def readC0 (server : SimpleHandshakeServer) : Reader HandshakeFault SimpleHandshakeServer := do
  let requestedVersion ← readU8
  return { server with requestedVersion := versionOf requestedVersion, version := .version3 }

def readC1 (server : SimpleHandshakeServer) : Reader HandshakeFault SimpleHandshakeServer := do
  let c1Timestamp ← readU32
  let _ ← (readU32 : Reader HandshakeFault UInt32)
  let c1Bytes ← extractBytes (rtmpHandshakeSize - timeVersionLength)
  return { server with c1Timestamp := c1Timestamp, c1Bytes := c1Bytes }

/-- C2 is passed over without a look at it. -/
def readC2 : Reader HandshakeFault Unit := seek rtmpHandshakeSize

def writeS0 (server : SimpleHandshakeServer) : Bytes := [server.version.toU8]

def writeS1 : Bytes :=
  beU32 surroundings.firstTime ++ beU32 0 ++ randomBytes surroundings.firstRandom 1528

def writeS2 (server : SimpleHandshakeServer) : Bytes :=
  beU32 server.c1Timestamp ++ beU32 surroundings.secondTime ++ server.c1Bytes

def answer (server : SimpleHandshakeServer) : SimpleHandshakeServer × Bytes :=
  ({ server with state := .readC2 },
    server.writeS0 ++ writeS1 surroundings ++ server.writeS2 surroundings)

/-- The loop over the states: it leaves after an answer and when it is finished. -/
def handshake (server : SimpleHandshakeServer) :
    Reader HandshakeFault (SimpleHandshakeServer × Bytes) :=
  match server.state with
  | .readC0C1 => do
      let server ← server.readC0
      let server ← server.readC1
      return { server with state := .writeS0S1S2 }.answer surroundings
  | .writeS0S1S2 => pure (server.answer surroundings)
  | .readC2 => do
      readC2
      return ({ server with state := .finish }, [])
  | .finish => pure (server, [])

end SimpleHandshakeServer

/-! ## The complex form -/

structure ComplexHandshakeServer where
  version : RtmpVersion
  requestedVersion : RtmpVersion
  state : ServerHandshakeState
  schemaVersion : SchemaVersion
  c1Digest : Bytes
  c1Timestamp : UInt32
  c1Version : UInt32

namespace ComplexHandshakeServer

def default : ComplexHandshakeServer := ⟨.unknown, .unknown, .readC0C1, .schema0, [], 0, 0⟩

def readC0 (server : ComplexHandshakeServer) : Reader HandshakeFault ComplexHandshakeServer := do
  let requestedVersion ← readU8
  return { server with requestedVersion := versionOf requestedVersion, version := .version3 }

def readC1 (server : ComplexHandshakeServer) : Reader HandshakeFault ComplexHandshakeServer := do
  let c1Bytes ← extractBytes rtmpHandshakeSize
  let c1Timestamp := UInt32.ofNat (ofBytesBE (c1Bytes.take 4))
  let c1Version := UInt32.ofNat (ofBytesBE ((c1Bytes.drop 4).take 4))
  let (c1Digest, schemaVersion) ←
    ofExcept (DigestProcessor.readDigest surroundings rtmpClientKeyFirstHalf c1Bytes)
  return { server with
    c1Timestamp := c1Timestamp, c1Version := c1Version, c1Digest := c1Digest,
    schemaVersion := schemaVersion }

def writeS0 (server : ComplexHandshakeServer) : Bytes := [server.version.toU8]

def writeS1 (server : ComplexHandshakeServer) : Except HandshakeFault Bytes := do
  let data := beU32 surroundings.firstTime ++ beU32 rtmpServerVersion ++
    randomBytes surroundings.firstRandom (rtmpHandshakeSize - timeVersionLength)
  let (first, second, third) ← DigestProcessor.generateAndFillDigest surroundings
    rtmpServerKeyFirstHalf data server.schemaVersion
  return first ++ second ++ third

/-- The key of the signature is the digest of the client's digest. -/
def writeS2 (server : ComplexHandshakeServer) : Bytes :=
  let data := beU32 surroundings.secondTime ++ beU32 server.c1Timestamp ++
    randomBytes surroundings.secondRandom
      (rtmpHandshakeSize - rtmpDigestLength - timeVersionLength)
  let key := DigestProcessor.makeDigest surroundings rtmpServerKey server.c1Digest []
  data ++ DigestProcessor.makeDigest surroundings key data []

def answer (server : ComplexHandshakeServer) :
    Except HandshakeFault (ComplexHandshakeServer × Bytes) := do
  let s1 ← server.writeS1 surroundings
  return ({ server with state := .readC2 }, server.writeS0 ++ s1 ++ server.writeS2 surroundings)

def handshake (server : ComplexHandshakeServer) :
    Reader HandshakeFault (ComplexHandshakeServer × Bytes) :=
  match server.state with
  | .readC0C1 => do
      let server ← server.readC0
      let server ← server.readC1 surroundings
      ofExcept ({ server with state := .writeS0S1S2 }.answer surroundings)
  | .writeS0S1S2 => ofExcept (server.answer surroundings)
  | .readC2 => do
      SimpleHandshakeServer.readC2
      return ({ server with state := .finish }, [])
  | .finish => pure (server, [])

end ComplexHandshakeServer

/-! ## Either form -/

inductive HandshakeServer where
  | simple (server : SimpleHandshakeServer)
  | complex (server : ComplexHandshakeServer)

namespace HandshakeServer

def default : HandshakeServer := .complex ComplexHandshakeServer.default

def state : HandshakeServer → ServerHandshakeState
  | .simple server => server.state
  | .complex server => server.state

/-- A failed complex handshake starts again as a simple one from the same
position. -/
def handshake : HandshakeServer → Reader HandshakeFault (HandshakeServer × Bytes)
  | .simple server => do
      let (server, output) ← server.handshake surroundings
      return (.simple server, output)
  | .complex server => fun input position =>
      match server.handshake surroundings input position with
      | .ok ((server, output), stop) => .ok ((.complex server, output), stop)
      | .error .panic => .error .panic
      | .error _ =>
          (do
            let (server, output) ← SimpleHandshakeServer.default.handshake surroundings
            return (.simple server, output) : Reader HandshakeFault (HandshakeServer × Bytes))
            input position

end HandshakeServer

/-! ## What a round needs -/

section Rounds

variable {surroundings} {data : Bytes}

namespace DigestProcessor

theorem findDigestOffset_of_length (size : data.length = rtmpHandshakeSize)
    (version : SchemaVersion) :
    ∃ offset, findDigestOffset data version = .ok offset ∧ schemaOffset version + 4 ≤ offset ∧
      offset + rtmpDigestLength ≤ data.length := by
  have within : schemaOffset version + 3 < data.length := by
    rw [size]
    cases version <;> decide
  have bound : schemaOffset version ≤ 772 := by
    cases version <;> decide
  unfold findDigestOffset
  simp only [List.getElem?_eq_getElem (show schemaOffset version < data.length by omega),
    List.getElem?_eq_getElem (show schemaOffset version + 1 < data.length by omega),
    List.getElem?_eq_getElem (show schemaOffset version + 2 < data.length by omega),
    List.getElem?_eq_getElem within]
  refine ⟨_, rfl, ?_⟩
  have small := Nat.mod_lt (data[schemaOffset version].toNat + data[schemaOffset version + 1].toNat +
    data[schemaOffset version + 2].toNat + data[schemaOffset version + 3].toNat)
    (show 0 < chunkLength - rtmpDigestLength - 4 by decide)
  have width : chunkLength - rtmpDigestLength - 4 = 728 := by decide
  have whole : data.length = 1536 := size
  have digest : rtmpDigestLength = 32 := rfl
  rw [width] at small ⊢
  omega

theorem cookRawMessage_eq {version : SchemaVersion} {offset : Nat}
    (found : findDigestOffset data version = .ok offset)
    (present : offset + rtmpDigestLength ≤ data.length) :
    cookRawMessage data version = .ok (data.take offset, (data.drop offset).take rtmpDigestLength,
      data.drop (offset + rtmpDigestLength)) := by
  rw [cookRawMessage, found]
  exact if_pos present

/-- A message of the right size is cut around its digest. -/
theorem cookRawMessage_of_length (size : data.length = rtmpHandshakeSize)
    (version : SchemaVersion) :
    ∃ left digest right, cookRawMessage data version = .ok (left, digest, right) ∧
      left.length + rtmpDigestLength + right.length = rtmpHandshakeSize := by
  obtain ⟨offset, found, _, present⟩ := findDigestOffset_of_length size version
  refine ⟨data.take offset, (data.drop offset).take rtmpDigestLength,
    data.drop (offset + rtmpDigestLength), cookRawMessage_eq found present, ?_⟩
  rw [List.length_take, List.length_drop, ← size]
  omega

/-- A message of the right size has a digest or none; it is never cut out of
range. -/
theorem generateAndValidate_of_length (key : Bytes) (size : data.length = rtmpHandshakeSize)
    (version : SchemaVersion) :
    (∃ digest, generateAndValidate surroundings key data version = .ok digest) ∨
      generateAndValidate surroundings key data version = .error .cannotGenerate := by
  obtain ⟨left, digest, right, cooked, _⟩ := cookRawMessage_of_length size version
  unfold generateAndValidate
  rw [cooked]
  by_cases same : digest = makeDigest surroundings key left right
  · exact .inl ⟨digest, if_pos same⟩
  · exact .inr (if_neg same)

theorem readDigest_of_length (key : Bytes) (size : data.length = rtmpHandshakeSize) :
    (∃ digest, readDigest surroundings key data = .ok digest) ∨
      readDigest surroundings key data = .error .cannotGenerate := by
  unfold readDigest
  rcases @generateAndValidate_of_length surroundings data key size .schema0 with
    ⟨digest, valid⟩ | invalid
  · rw [valid]
    exact .inl ⟨_, rfl⟩
  · rw [invalid]
    rcases @generateAndValidate_of_length surroundings data key size .schema1 with
      ⟨digest, valid⟩ | invalid
    · exact .inl ⟨(digest, .schema1), by rw [valid]; rfl⟩
    · exact .inr (by rw [invalid]; rfl)

end DigestProcessor

theorem length_randomBytes (random : Nat → UInt8) (count : Nat) :
    (randomBytes random count).length = count := by
  rw [randomBytes, List.length_map, List.length_range]

theorem length_makeDigest (key left right : Bytes) :
    (DigestProcessor.makeDigest surroundings key left right).length = rtmpDigestLength :=
  Vector.length_toList

/-- The time that C1 begins with. -/
def timeOf (c1 : Bytes) : UInt32 := UInt32.ofNat (ofBytesBE (c1.take 4))

/-- S1 and S2 answer C1: in the complex form when it has a digest, and else in the
simple form, which sends its random bytes back. -/
def Answers (surroundings : Surroundings) (c1 s1 s2 : Bytes) : Prop :=
  (∃ server : ComplexHandshakeServer,
    DigestProcessor.readDigest surroundings rtmpClientKeyFirstHalf c1 =
        .ok (server.c1Digest, server.schemaVersion) ∧
      server.c1Timestamp = timeOf c1 ∧ server.writeS1 surroundings = .ok s1 ∧
      server.writeS2 surroundings = s2) ∨
  (DigestProcessor.readDigest surroundings rtmpClientKeyFirstHalf c1 = .error .cannotGenerate ∧
    ∃ server : SimpleHandshakeServer, server.c1Timestamp = timeOf c1 ∧
      server.c1Bytes = c1.drop timeVersionLength ∧
      SimpleHandshakeServer.writeS1 surroundings = s1 ∧ server.writeS2 surroundings = s2)

/-- S1 of the complex form is always written, in its full size. -/
theorem ComplexHandshakeServer.writeS1_ok (server : ComplexHandshakeServer) :
    ∃ s1, server.writeS1 surroundings = .ok s1 ∧ s1.length = rtmpHandshakeSize := by
  have size : (beU32 surroundings.firstTime ++ beU32 rtmpServerVersion ++
      randomBytes surroundings.firstRandom (rtmpHandshakeSize - timeVersionLength)).length =
        rtmpHandshakeSize := by
    simp only [List.length_append, length_beU32, length_randomBytes]
    decide
  obtain ⟨left, digest, right, cooked, whole⟩ :=
    DigestProcessor.cookRawMessage_of_length size server.schemaVersion
  refine ⟨left ++ DigestProcessor.makeDigest surroundings rtmpServerKeyFirstHalf left right ++ right,
    ?_, ?_⟩
  · unfold ComplexHandshakeServer.writeS1 DigestProcessor.generateAndFillDigest
    dsimp only
    rw [cooked]
    rfl
  · rw [List.length_append, List.length_append, length_makeDigest, whole]

theorem ComplexHandshakeServer.length_writeS2 (server : ComplexHandshakeServer) :
    (server.writeS2 surroundings).length = rtmpHandshakeSize := by
  simp only [ComplexHandshakeServer.writeS2, List.length_append, length_beU32, length_randomBytes,
    length_makeDigest]
  decide

theorem Answers.length {c1 s1 s2 : Bytes} (answers : Answers surroundings c1 s1 s2)
    (size : c1.length = rtmpHandshakeSize) :
    s1.length = rtmpHandshakeSize ∧ s2.length = rtmpHandshakeSize := by
  rcases answers with ⟨server, _, _, first, rfl⟩ | ⟨_, server, _, random, rfl, rfl⟩
  · obtain ⟨written, done, whole⟩ := @ComplexHandshakeServer.writeS1_ok surroundings server
    rw [done] at first
    cases first
    exact ⟨whole, server.length_writeS2⟩
  · constructor
    · simp only [SimpleHandshakeServer.writeS1, List.length_append, length_beU32,
        length_randomBytes]
      decide
    · simp only [SimpleHandshakeServer.writeS2, List.length_append, length_beU32, random,
        List.length_drop, size]
      decide

/-- The complex form answers a C0 and a C1, or finds no digest. -/
theorem ComplexHandshakeServer.handshake_first {c1 : Bytes} (size : c1.length = rtmpHandshakeSize)
    (stands : StandsAt data 1 c1) :
    (∃ server s1 s2, ComplexHandshakeServer.default.handshake surroundings data 0 =
        .ok ((server, [3] ++ s1 ++ s2), rtmpHandshakeSize + 1) ∧ server.state = .readC2 ∧
          Answers surroundings c1 s1 s2) ∨
      (ComplexHandshakeServer.default.handshake surroundings data 0 = .error .cannotGenerate ∧
        DigestProcessor.readDigest surroundings rtmpClientKeyFirstHalf c1 =
          .error .cannotGenerate) := by
  have present := stands.le_length
  obtain ⟨byte, first⟩ := @StandsAt.exists_byte data 0 (by omega)
  have c0Read := map_ok ((Reads.readU8 (ε := HandshakeFault) byte).at first)
    fun byte => { ComplexHandshakeServer.default with
      requestedVersion := versionOf byte, version := .version3 }
  have c0 : ComplexHandshakeServer.default.readC0 data 0 = .ok (_, 1) := c0Read
  have c1Taken := (Reads.extractBytes (ε := HandshakeFault) size).at stands
  have start : ComplexHandshakeServer.default.handshake surroundings data 0 =
      (do
        let server ← ComplexHandshakeServer.default.readC0
        let server ← server.readC1 surroundings
        ofExcept ({ server with state := .writeS0S1S2 }.answer surroundings) :
          Reader HandshakeFault (ComplexHandshakeServer × Bytes)) data 0 := rfl
  rw [start, bind_ok c0]
  rcases @DigestProcessor.readDigest_of_length surroundings c1 rtmpClientKeyFirstHalf size with
    ⟨⟨digest, schema⟩, valid⟩ | invalid
  · have c1Read (server : ComplexHandshakeServer) : server.readC1 surroundings data 1 =
        .ok ({ server with
          c1Timestamp := timeOf c1, c1Version := UInt32.ofNat (ofBytesBE ((c1.drop 4).take 4)),
          c1Digest := digest, schemaVersion := schema }, 1 + c1.length) := by
      unfold ComplexHandshakeServer.readC1
      rw [bind_ok c1Taken]
      dsimp only
      rw [valid]
      rfl
    rw [bind_ok (c1Read _)]
    obtain ⟨server, known⟩ : ∃ server : ComplexHandshakeServer,
        server = ⟨.version3, versionOf byte, .writeS0S1S2, schema, digest, timeOf c1,
          UInt32.ofNat (ofBytesBE ((c1.drop 4).take 4))⟩ := ⟨_, rfl⟩
    obtain ⟨s1, written, _⟩ := @ComplexHandshakeServer.writeS1_ok surroundings server
    have answered : server.answer surroundings =
        .ok ({ server with state := .readC2 },
          server.writeS0 ++ s1 ++ server.writeS2 surroundings) := by
      rw [ComplexHandshakeServer.answer, written]
      rfl
    refine .inl ⟨{ server with state := .readC2 }, s1, server.writeS2 surroundings, ?_, rfl,
      .inl ⟨server, by rw [valid, known], by rw [known], written, rfl⟩⟩
    change ofExcept (ComplexHandshakeServer.answer surroundings ⟨.version3, versionOf byte,
      .writeS0S1S2, schema, digest, timeOf c1, UInt32.ofNat (ofBytesBE ((c1.drop 4).take 4))⟩)
        data (1 + c1.length) = _
    rw [← known, answered, size, Nat.add_comm, ComplexHandshakeServer.writeS0,
      show server.version = .version3 by rw [known]]
    rfl
  · refine .inr ⟨bind_error ?_ _, invalid⟩
    unfold ComplexHandshakeServer.readC1
    rw [bind_ok c1Taken]
    dsimp only
    rw [invalid]
    rfl

/-- The simple form answers every C0 and C1. -/
theorem SimpleHandshakeServer.handshake_first {c1 : Bytes} (size : c1.length = rtmpHandshakeSize)
    (stands : StandsAt data 1 c1)
    (invalid : DigestProcessor.readDigest surroundings rtmpClientKeyFirstHalf c1 =
      .error .cannotGenerate) :
    ∃ server s1 s2, SimpleHandshakeServer.default.handshake surroundings data 0 =
      .ok ((server, [3] ++ s1 ++ s2), rtmpHandshakeSize + 1) ∧ server.state = .readC2 ∧
        Answers surroundings c1 s1 s2 := by
  have whole : c1.length = 1536 := size
  have parts : c1 = c1.take 4 ++ ((c1.drop 4).take 4 ++ c1.drop timeVersionLength) := by
    rw [show timeVersionLength = 4 + 4 from rfl, ← List.drop_drop, List.take_append_drop,
      List.take_append_drop]
  have inPlace := stands
  rw [parts] at inPlace
  obtain ⟨timeStands, rest⟩ := StandsAt.append_iff.mp inPlace
  obtain ⟨_, randomStands⟩ := StandsAt.append_iff.mp rest
  rw [List.length_take, List.length_take, List.length_drop, whole] at randomStands
  have randomSize : (c1.drop timeVersionLength).length = rtmpHandshakeSize - timeVersionLength := by
    rw [List.length_drop, size]
  have present := stands.le_length
  have version := map_ok (readUint_of_le (ε := HandshakeFault)
    (show 0 + 1 ≤ data.length by omega)) UInt8.ofNat
  have time := map_ok (readUint_of_le (ε := HandshakeFault)
    (show 1 + 4 ≤ data.length by omega)) UInt32.ofNat
  have zero := map_ok (readUint_of_le (ε := HandshakeFault)
    (show 5 + 4 ≤ data.length by omega)) UInt32.ofNat
  have random := (Reads.extractBytes (ε := HandshakeFault) randomSize).at randomStands
  have timeIs : (data.drop 1).take 4 = c1.take 4 := by
    have found := timeStands.take_drop
    rwa [List.length_take, whole] at found
  have c0 : SimpleHandshakeServer.default.readC0 data 0 = .ok (_, 1) := map_ok version _
  have c1Read (server : SimpleHandshakeServer) : server.readC1 data 1 =
      .ok ({ server with c1Timestamp := timeOf c1, c1Bytes := c1.drop timeVersionLength },
        rtmpHandshakeSize + 1) := by
    rw [timeIs] at time
    unfold SimpleHandshakeServer.readC1
    refine (bind_ok time _).trans ((bind_ok zero _).trans ((bind_ok random _).trans ?_))
    rw [randomSize]
    rfl
  have start : SimpleHandshakeServer.default.handshake surroundings data 0 =
      (do
        let server ← SimpleHandshakeServer.default.readC0
        let server ← server.readC1
        return { server with state := .writeS0S1S2 }.answer surroundings :
          Reader HandshakeFault (SimpleHandshakeServer × Bytes)) data 0 := rfl
  rw [start, bind_ok c0, bind_ok (c1Read _)]
  exact ⟨_, SimpleHandshakeServer.writeS1 surroundings, _, rfl, rfl,
    .inr ⟨invalid, _, rfl, rfl, rfl, rfl⟩⟩

theorem HandshakeServer.handshake_complex (server : ComplexHandshakeServer) (data : Bytes)
    (position : Nat) :
    (HandshakeServer.complex server).handshake surroundings data position =
      match server.handshake surroundings data position with
      | .ok ((server, output), stop) => .ok ((.complex server, output), stop)
      | .error .panic => .error .panic
      | .error _ =>
          (do
            let (server, output) ← SimpleHandshakeServer.default.handshake surroundings
            return (.simple server, output) : Reader HandshakeFault (HandshakeServer × Bytes))
            data position := rfl

/-- The first round ends in the complex form where C1 has a digest, and in the simple form where it
has none. -/
theorem HandshakeServer.handshake_form (enough : rtmpHandshakeSize + 1 ≤ data.length) :
    ∃ server s1 s2, HandshakeServer.default.handshake surroundings data 0 =
      .ok ((server, [3] ++ s1 ++ s2), rtmpHandshakeSize + 1) ∧ server.state = .readC2 ∧
        Answers surroundings ((data.drop 1).take rtmpHandshakeSize) s1 s2 ∧
          ((∃ form, server = .complex form) ∨ (∃ form, server = .simple form) ∧
            DigestProcessor.readDigest surroundings rtmpClientKeyFirstHalf
              ((data.drop 1).take rtmpHandshakeSize) = .error .cannotGenerate) := by
  obtain ⟨c1, size, stands⟩ := @StandsAt.exists_bytes data 1 rtmpHandshakeSize (by omega)
  have same : (data.drop 1).take rtmpHandshakeSize = c1 := size ▸ stands.take_drop
  rw [same]
  rcases @ComplexHandshakeServer.handshake_first surroundings data c1 size stands with
    ⟨server, s1, s2, answered, waits, answers⟩ | ⟨failed, invalid⟩
  · refine ⟨.complex server, s1, s2, ?_, waits, answers, .inl ⟨server, rfl⟩⟩
    rw [HandshakeServer.default, HandshakeServer.handshake_complex, answered]
  · obtain ⟨server, s1, s2, answered, waits, answers⟩ :=
      @SimpleHandshakeServer.handshake_first surroundings data c1 size stands invalid
    refine ⟨.simple server, s1, s2, ?_, waits, answers, .inr ⟨⟨server, rfl⟩, invalid⟩⟩
    rw [HandshakeServer.default, HandshakeServer.handshake_complex, failed]
    exact bind_ok answered _

/-- Whatever the client sends, a first round with enough bytes consumes C0 and C1,
ends with an answer to C1 and waits for C2. -/
theorem HandshakeServer.handshake_first (enough : rtmpHandshakeSize + 1 ≤ data.length) :
    ∃ server s1 s2, HandshakeServer.default.handshake surroundings data 0 =
      .ok ((server, [3] ++ s1 ++ s2), rtmpHandshakeSize + 1) ∧ server.state = .readC2 ∧
        Answers surroundings ((data.drop 1).take rtmpHandshakeSize) s1 s2 := by
  obtain ⟨server, s1, s2, answered, waits, answers, _⟩ := HandshakeServer.handshake_form enough
  exact ⟨server, s1, s2, answered, waits, answers⟩

/-- A round that waits for C2 passes over its bytes and is finished, whatever they
are. -/
theorem HandshakeServer.handshake_second {server : HandshakeServer}
    (waits : server.state = .readC2) (data : Bytes) :
    ∃ finished, server.handshake surroundings data 0 =
      .ok ((finished, []), rtmpHandshakeSize) ∧ finished.state = .finish := by
  cases server with
  | simple server =>
      have step : server.handshake surroundings data 0 =
          .ok (({ server with state := .finish }, []), rtmpHandshakeSize) := by
        rw [SimpleHandshakeServer.handshake, show server.state = .readC2 from waits]
        rfl
      exact ⟨.simple { server with state := .finish }, bind_ok step _, rfl⟩
  | complex server =>
      have step : server.handshake surroundings data 0 =
          .ok (({ server with state := .finish }, []), rtmpHandshakeSize) := by
        rw [ComplexHandshakeServer.handshake, show server.state = .readC2 from waits]
        rfl
      refine ⟨.complex { server with state := .finish }, ?_, rfl⟩
      rw [HandshakeServer.handshake_complex, step]

/-! ## Digests that are filled in -/

namespace DigestProcessor

/-- The place of the digest is found from the bytes in front of it alone. -/
theorem findDigestOffset_congr {other : Bytes} {version : SchemaVersion}
    (same : ∀ index < schemaOffset version + 4, other[index]? = data[index]?) :
    findDigestOffset other version = findDigestOffset data version := by
  unfold findDigestOffset
  dsimp only
  rw [same _ (by omega), same _ (by omega), same _ (by omega), same _ (by omega)]

/-- With another digest in its place a message is cut at the same place. -/
theorem cookRawMessage_filled {version : SchemaVersion} {offset : Nat} {digest : Bytes}
    (found : findDigestOffset data version = .ok offset) (behind : schemaOffset version + 4 ≤ offset)
    (present : offset + rtmpDigestLength ≤ data.length) (size : digest.length = rtmpDigestLength) :
    cookRawMessage (data.take offset ++ digest ++ data.drop (offset + rtmpDigestLength)) version =
      .ok (data.take offset, digest, data.drop (offset + rtmpDigestLength)) := by
  have before : (data.take offset).length = offset := by
    rw [List.length_take]
    omega
  have same : ∀ index < schemaOffset version + 4,
      (data.take offset ++ digest ++ data.drop (offset + rtmpDigestLength))[index]? =
        data[index]? := by
    intro index inFront
    rw [List.append_assoc, List.getElem?_append_left (by omega), List.getElem?_take_of_lt (by omega)]
  have again := (findDigestOffset_congr same).trans found
  have whole : offset + rtmpDigestLength ≤
      (data.take offset ++ digest ++ data.drop (offset + rtmpDigestLength)).length := by
    rw [List.length_append, List.length_append, before, size]
    omega
  generalize data.drop (offset + rtmpDigestLength) = right at again whole ⊢
  rw [cookRawMessage_eq again whole, ← List.drop_drop, List.append_assoc, List.take_left' before,
    List.drop_left' before, List.take_left' size, List.drop_left' size]

/-- A message whose digest is filled in carries it: the digest is found where it was put and is the
one of the bytes around it. -/
theorem generateAndFillDigest_validates (surroundings : Surroundings) (key : Bytes)
    (size : data.length = rtmpHandshakeSize) (version : SchemaVersion) :
    ∃ left digest right,
      generateAndFillDigest surroundings key data version = .ok (left, digest, right) ∧
      digest.length = 32 ∧ (left ++ digest ++ right).length = 1536 ∧
      left = data.take left.length ∧ right = data.drop (left.length + digest.length) ∧
      generateAndValidate surroundings key (left ++ digest ++ right) version = .ok digest ∧
      ∃ found, readDigest surroundings key (left ++ digest ++ right) = .ok found := by
  obtain ⟨offset, found, behind, present⟩ := findDigestOffset_of_length size version
  obtain ⟨digest, made⟩ : ∃ digest, digest = makeDigest surroundings key (data.take offset)
    (data.drop (offset + rtmpDigestLength)) := ⟨_, rfl⟩
  have sized : digest.length = rtmpDigestLength := by
    rw [made]
    exact length_makeDigest ..
  have before : (data.take offset).length = offset := by
    rw [List.length_take]
    omega
  have whole : (data.take offset ++ digest ++ data.drop (offset + rtmpDigestLength)).length =
      rtmpHandshakeSize := by
    rw [List.length_append, List.length_append, before, sized, List.length_drop, ← size]
    omega
  have valid : generateAndValidate surroundings key (data.take offset ++ digest ++
      data.drop (offset + rtmpDigestLength)) version = .ok digest := by
    unfold generateAndValidate
    rw [cookRawMessage_filled found behind present sized]
    exact if_pos made
  refine ⟨data.take offset, digest, data.drop (offset + rtmpDigestLength), ?_, sized, whole, ?_, ?_,
    valid, ?_⟩
  · rw [generateAndFillDigest, cookRawMessage_eq found present, made]
    rfl
  · rw [before]
  · rw [before, sized]
  · -- The other schema may find a digest first; without one the search comes to this schema.
    unfold readDigest
    rcases @generateAndValidate_of_length surroundings _ key whole .schema0 with
      ⟨digest, first⟩ | none
    · rw [first]
      exact ⟨_, rfl⟩
    · rw [none]
      cases version with
      | schema0 =>
          rw [valid] at none
          cases none
      | schema1 =>
          rw [valid]
          exact ⟨_, rfl⟩

theorem generateAndFillDigest_validates_quiet :
    ∃ left digest right, generateAndFillDigest quiet [] (List.replicate 1536 0) .schema1 =
        .ok (left, digest, right) ∧
      generateAndValidate quiet [] (left ++ digest ++ right) .schema1 = .ok digest := by
  obtain ⟨left, digest, right, filled, _, _, _, _, valid, _⟩ := generateAndFillDigest_validates quiet []
    (show (List.replicate 1536 (0 : UInt8)).length = rtmpHandshakeSize from List.length_replicate ..)
    .schema1
  exact ⟨left, digest, right, filled, valid⟩

end DigestProcessor

end Rounds

end ScuffleVideo.Rtmp.Handshake
