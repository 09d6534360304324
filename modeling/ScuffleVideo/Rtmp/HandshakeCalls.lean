import ScuffleVideo.Rtmp.Handshake

/-!
# Calls of the handshake

A call of the handshake changes the server, the cursor of the input and the output as it goes on, and
where it fails it leaves them as they are by then.  The calls refine the rounds: they end in the
same way, what they write is what the round answers, and a call that fails has neither written nor
changed the state of the server.
-/

namespace ScuffleVideo.Rtmp.Handshake

open Wire Wire.Reader

/-- What a call works on besides its input. -/
structure World (σ : Type) where
  server : σ
  position : Nat
  output : Bytes

/-- A call with some input returns or fails, and leaves a world behind. -/
def Call (σ α : Type) : Type := Bytes → World σ → Except HandshakeFault α × World σ

namespace Call

variable {σ α : Type}

instance : Monad (Call σ) where
  pure value := fun _ world => (.ok value, world)
  bind first next := fun input world =>
    match first input world with
    | (.ok value, world) => next value input world
    | (.error fault, world) => (.error fault, world)

def server : Call σ σ := fun _ world => (.ok world.server, world)

def change (update : σ → σ) : Call σ Unit := fun _ world =>
  (.ok (), { world with server := update world.server })

/-- Read from the cursor, which stays where it is if the read fails. -/
def read (reader : Reader HandshakeFault α) : Call σ α := fun input world =>
  match reader input world.position with
  | .ok (value, stop) => (.ok value, { world with position := stop })
  | .error fault => (.error fault, world)

def write (bytes : Bytes) : Call σ Unit := fun _ world =>
  (.ok (), { world with output := world.output ++ bytes })

def ofExcept (result : Except HandshakeFault α) : Call σ α := fun _ world => (result, world)

variable {β : Type} {first : Call σ α} {next : α → Call σ β} {input : Bytes} {world left : World σ}

theorem bind_ok {value : α} (done : first input world = (.ok value, left)) :
    (first >>= next) input world = next value input left := by
  change (match first input world with
    | (.ok value, world) => next value input world
    | (.error fault, world) => (.error fault, world)) = _
  rw [done]

theorem bind_error {fault : HandshakeFault} (failed : first input world = (.error fault, left)) :
    (first >>= next) input world = (.error fault, left) := by
  change (match first input world with
    | (.ok value, world) => next value input world
    | (.error fault, world) => (.error fault, world)) = _
  rw [failed]

theorem read_ok {reader : Reader HandshakeFault α} {value : α} {stop : Nat}
    (done : reader input world.position = .ok (value, stop)) :
    read reader input world = (.ok value, { world with position := stop }) := by
  unfold read
  rw [done]

theorem read_error {reader : Reader HandshakeFault α} {fault : HandshakeFault}
    (failed : reader input world.position = .error fault) :
    read reader input world = (.error fault, world) := by
  unfold read
  rw [failed]

end Call

/-! ## The calls -/

variable (surroundings : Surroundings)

namespace SimpleHandshakeServer

open Call

def callReadC0 : Call SimpleHandshakeServer Unit := do
  let requestedVersion ← read readU8
  change fun server => { server with requestedVersion := versionOf requestedVersion }
  change fun server => { server with version := .version3 }

def callReadC1 : Call SimpleHandshakeServer Unit := do
  let c1Timestamp ← read readU32
  change fun server => { server with c1Timestamp := c1Timestamp }
  let _ ← (read readU32 : Call SimpleHandshakeServer UInt32)
  let c1Bytes ← read (extractBytes (rtmpHandshakeSize - timeVersionLength))
  change fun server => { server with c1Bytes := c1Bytes }

def callWriteS0 : Call SimpleHandshakeServer Unit := do
  let server ← server
  write [server.version.toU8]

def callWriteS1 : Call SimpleHandshakeServer Unit := do
  write (beU32 surroundings.firstTime)
  write (beU32 0)
  write (randomBytes surroundings.firstRandom 1528)

def callWriteS2 : Call SimpleHandshakeServer Unit := do
  let server ← server
  write (beU32 server.c1Timestamp)
  write (beU32 surroundings.secondTime)
  write server.c1Bytes

def callAnswer : Call SimpleHandshakeServer Unit := do
  callWriteS0
  callWriteS1 surroundings
  callWriteS2 surroundings
  change fun server => { server with state := .readC2 }

/-- The loop over the states, which leaves after an answer and when it is finished. -/
def call : Call SimpleHandshakeServer Unit := do
  let current ← server
  match current.state with
  | .readC0C1 => do
      callReadC0
      callReadC1
      change fun server => { server with state := .writeS0S1S2 }
      callAnswer surroundings
  | .writeS0S1S2 => callAnswer surroundings
  | .readC2 => do
      read readC2
      change fun server => { server with state := .finish }
  | .finish => pure ()

end SimpleHandshakeServer

namespace ComplexHandshakeServer

open Call

def callReadC0 : Call ComplexHandshakeServer Unit := do
  let requestedVersion ← read readU8
  change fun server => { server with requestedVersion := versionOf requestedVersion }
  change fun server => { server with version := .version3 }

/-- The time and the version are kept before the digest is looked for. -/
def callReadC1 : Call ComplexHandshakeServer Unit := do
  let c1Bytes ← read (extractBytes rtmpHandshakeSize)
  change fun server => { server with c1Timestamp := UInt32.ofNat (ofBytesBE (c1Bytes.take 4)) }
  change fun server => { server with c1Version := UInt32.ofNat (ofBytesBE ((c1Bytes.drop 4).take 4)) }
  let (c1Digest, schemaVersion) ←
    ofExcept (DigestProcessor.readDigest surroundings rtmpClientKeyFirstHalf c1Bytes)
  change fun server => { server with c1Digest := c1Digest }
  change fun server => { server with schemaVersion := schemaVersion }

def callWriteS0 : Call ComplexHandshakeServer Unit := do
  let server ← server
  write [server.version.toU8]

/-- The message is made and cut in memory and then written in its three parts. -/
def callWriteS1 : Call ComplexHandshakeServer Unit := do
  let server ← server
  let data := beU32 surroundings.firstTime ++ beU32 rtmpServerVersion ++
    randomBytes surroundings.firstRandom (rtmpHandshakeSize - timeVersionLength)
  let (first, second, third) ← ofExcept (DigestProcessor.generateAndFillDigest surroundings
    rtmpServerKeyFirstHalf data server.schemaVersion)
  write first
  write second
  write third

/-- The signature is of what this call has written so far. -/
def callWriteS2 : Call ComplexHandshakeServer Unit := do
  let start ← (fun _ world => (.ok world.output.length, world) : Call ComplexHandshakeServer Nat)
  let server ← server
  write (beU32 surroundings.secondTime)
  write (beU32 server.c1Timestamp)
  write (randomBytes surroundings.secondRandom
    (rtmpHandshakeSize - rtmpDigestLength - timeVersionLength))
  let key := DigestProcessor.makeDigest surroundings rtmpServerKey server.c1Digest []
  let data ← (fun _ world => (.ok ((world.output.drop start).take
    (rtmpHandshakeSize - rtmpDigestLength)), world) : Call ComplexHandshakeServer Bytes)
  write (DigestProcessor.makeDigest surroundings key data [])

def callAnswer : Call ComplexHandshakeServer Unit := do
  callWriteS0
  callWriteS1 surroundings
  callWriteS2 surroundings
  change fun server => { server with state := .readC2 }

def call : Call ComplexHandshakeServer Unit := do
  let current ← server
  match current.state with
  | .readC0C1 => do
      callReadC0
      callReadC1 surroundings
      change fun server => { server with state := .writeS0S1S2 }
      callAnswer surroundings
  | .writeS0S1S2 => callAnswer surroundings
  | .readC2 => do
      read SimpleHandshakeServer.readC2
      change fun server => { server with state := .finish }
  | .finish => pure ()

end ComplexHandshakeServer

/-- A complex handshake that fails leaves its output, and a simple one starts again from the same
position.  It takes the place of the complex one only if it returns. -/
def HandshakeServer.call : Call HandshakeServer Unit := fun input world =>
  match world.server with
  | .simple server =>
      let (result, left) := SimpleHandshakeServer.call surroundings input
        ⟨server, world.position, world.output⟩
      (result, ⟨.simple left.server, left.position, left.output⟩)
  | .complex server =>
      match ComplexHandshakeServer.call surroundings input
          ⟨server, world.position, world.output⟩ with
      | (.ok (), left) => (.ok (), ⟨.complex left.server, left.position, left.output⟩)
      | (.error .panic, left) =>
          (.error .panic, ⟨.complex left.server, left.position, left.output⟩)
      | (.error _, left) =>
          match SimpleHandshakeServer.call surroundings input
              ⟨SimpleHandshakeServer.default, world.position, left.output⟩ with
          | (.ok (), last) => (.ok (), ⟨.simple last.server, last.position, last.output⟩)
          | (.error fault, last) =>
              (.error fault, ⟨.complex left.server, last.position, last.output⟩)

theorem ofExcept_ok {α : Type} {result : Except HandshakeFault α} {value : α} {input : Bytes}
    {position : Nat} (done : result = .ok value) :
    Reader.ofExcept result input position = .ok (value, position) := by
  rw [done]
  rfl

/-! ## Calls refine rounds -/

section Refinement

variable {σ : Type} (state : σ → ServerHandshakeState)

/-- A call that fails has neither written nor changed the state. -/
def Untouched (world left : World σ) : Prop :=
  left.output = world.output ∧ state left.server = state world.server

/-- The call reads what the reader reads, and writes nothing. -/
def ReadsAs (call : Call σ Unit) (reader : σ → Reader HandshakeFault σ) : Prop :=
  ∀ input world,
    (∃ server stop, reader world.server input world.position = .ok (server, stop) ∧
      state server = state world.server ∧
      call input world = (.ok (), ⟨server, stop, world.output⟩)) ∨
    (∃ fault left, reader world.server input world.position = .error fault ∧
      call input world = (.error fault, left) ∧ Untouched state world left)

/-- The call ends as the round does, and writes what it answers. -/
def Refines (call : Call σ Unit) (round : σ → Reader HandshakeFault (σ × Bytes)) : Prop :=
  ∀ input world,
    (∃ server bytes stop, round world.server input world.position = .ok ((server, bytes), stop) ∧
      call input world = (.ok (), ⟨server, stop, world.output ++ bytes⟩)) ∨
    (∃ fault left, round world.server input world.position = .error fault ∧
      call input world = (.error fault, left) ∧ Untouched state world left)

variable {state}

/-- A value that is read and kept in the server. -/
theorem ReadsAs.stored {α : Type} {reader : Reader HandshakeFault α} {store : α → σ → σ}
    {keep : α → Call σ Unit} (kept : ∀ value server, state (store value server) = state server)
    (keeps : ∀ value input, keep value input =
      fun world => (.ok (), { world with server := store value world.server })) :
    ReadsAs state (Call.read reader >>= keep) fun server => do return store (← reader) server := by
  intro input world
  cases read : reader input world.position with
  | ok pair =>
      obtain ⟨value, stop⟩ := pair
      exact .inl ⟨store value world.server, stop, Reader.map_ok read fun value => store value world.server,
        kept _ _, (Call.bind_ok (Call.read_ok read)).trans (congrFun (keeps value input) _)⟩
  | error fault =>
      exact .inr ⟨fault, world, Reader.bind_error read _, Call.bind_error (Call.read_error read),
        rfl, rfl⟩

/-- A round that starts with a read. -/
theorem Refines.behind {first second : Call σ Unit} {reader : σ → Reader HandshakeFault σ}
    {round : σ → Reader HandshakeFault (σ × Bytes)} (head : ReadsAs state first reader)
    (tail : Refines state second round) :
    Refines state (do first; second) (fun server => reader server >>= round) := by
  intro input world
  rcases head input world with ⟨server, stop, read, kept, called⟩ | ⟨fault, left, failed, called, same⟩
  · rcases tail input ⟨server, stop, world.output⟩ with ⟨final, bytes, last, more, done⟩ |
      ⟨fault, left, failed, again, output, unchanged⟩
    · exact .inl ⟨final, bytes, last, (Reader.bind_ok read _).trans more,
        (Call.bind_ok called).trans done⟩
    · exact .inr ⟨fault, left, (Reader.bind_ok read _).trans failed, (Call.bind_ok called).trans again,
        output, unchanged.trans kept⟩
  · exact .inr ⟨fault, left, Reader.bind_error failed _, Call.bind_error called, same⟩

end Refinement

section

variable {surroundings}

theorem SimpleHandshakeServer.readC0_called :
    ReadsAs SimpleHandshakeServer.state callReadC0 readC0 :=
  ReadsAs.stored (fun _ _ => rfl) fun _ _ => rfl

theorem SimpleHandshakeServer.readC1_called :
    ReadsAs SimpleHandshakeServer.state callReadC1 readC1 := by
  intro input world
  unfold readC1 callReadC1
  cases timeRead : (readU32 : Reader HandshakeFault UInt32) input world.position with
  | error fault =>
      rw [Reader.bind_error timeRead, Call.bind_error (Call.read_error timeRead)]
      exact .inr ⟨fault, world, rfl, rfl, rfl, rfl⟩
  | ok pair =>
      obtain ⟨time, first⟩ := pair
      rw [Reader.bind_ok timeRead, Call.bind_ok (Call.read_ok timeRead)]
      cases zeroRead : (readU32 : Reader HandshakeFault UInt32) input first with
      | error fault =>
          rw [Reader.bind_error zeroRead, Call.bind_ok rfl, Call.bind_error (Call.read_error zeroRead)]
          exact .inr ⟨fault, _, rfl, rfl, rfl, rfl⟩
      | ok pair =>
          obtain ⟨zero, second⟩ := pair
          rw [Reader.bind_ok zeroRead, Call.bind_ok rfl, Call.bind_ok (Call.read_ok zeroRead)]
          cases bytesRead : (extractBytes (rtmpHandshakeSize - timeVersionLength) :
              Reader HandshakeFault Bytes) input second with
          | error fault =>
              rw [Reader.bind_error bytesRead, Call.bind_error (Call.read_error bytesRead)]
              exact .inr ⟨fault, _, rfl, rfl, rfl, rfl⟩
          | ok pair =>
              obtain ⟨bytes, third⟩ := pair
              rw [Reader.bind_ok bytesRead, Call.bind_ok (Call.read_ok bytesRead)]
              exact .inl ⟨_, third, rfl, rfl, rfl⟩

theorem SimpleHandshakeServer.answer_called (input : Bytes) (world : World SimpleHandshakeServer) :
    callAnswer surroundings input world =
      (.ok (), ⟨(world.server.answer surroundings).1, world.position,
        world.output ++ (world.server.answer surroundings).2⟩) := by
  unfold answer writeS0 writeS1 writeS2
  simp only [← List.append_assoc]
  rfl

/-- A call of the simple form does what its round does. -/
theorem SimpleHandshakeServer.call_refines :
    Refines SimpleHandshakeServer.state (call surroundings) (handshake surroundings) := by
  intro input world
  unfold handshake call
  rw [Call.bind_ok (show Call.server input world = (.ok world.server, world) from rfl)]
  cases known : world.server.state with
  | readC0C1 =>
      have last : Refines SimpleHandshakeServer.state (do
          Call.change fun server => { server with state := .writeS0S1S2 }
          callAnswer surroundings) fun server =>
          pure ({ server with state := .writeS0S1S2 }.answer surroundings) :=
        fun input world => .inl ⟨_, _, world.position, rfl, answer_called input _⟩
      exact (Refines.behind readC0_called (Refines.behind readC1_called last)) input world
  | writeS0S1S2 => exact .inl ⟨_, _, world.position, rfl, answer_called input world⟩
  | readC2 =>
      refine .inl ⟨_, [], world.position + rtmpHandshakeSize, rfl, ?_⟩
      rw [List.append_nil]
      rfl
  | finish =>
      refine .inl ⟨world.server, [], world.position, rfl, ?_⟩
      rw [List.append_nil]
      rfl

theorem ComplexHandshakeServer.readC0_called :
    ReadsAs ComplexHandshakeServer.state callReadC0 readC0 :=
  ReadsAs.stored (fun _ _ => rfl) fun _ _ => rfl

/-- A C1 without a digest leaves its time and version in the server, but nothing in the output. -/
theorem ComplexHandshakeServer.readC1_called :
    ReadsAs ComplexHandshakeServer.state (callReadC1 surroundings) (readC1 surroundings) := by
  intro input world
  unfold readC1 callReadC1
  cases taken : (extractBytes rtmpHandshakeSize : Reader HandshakeFault Bytes) input world.position with
  | error fault =>
      rw [Reader.bind_error taken, Call.bind_error (Call.read_error taken)]
      exact .inr ⟨fault, world, rfl, rfl, rfl, rfl⟩
  | ok pair =>
      obtain ⟨bytes, stop⟩ := pair
      rw [Reader.bind_ok taken, Call.bind_ok (Call.read_ok taken), Call.bind_ok rfl, Call.bind_ok rfl]
      dsimp only
      cases digested : DigestProcessor.readDigest surroundings rtmpClientKeyFirstHalf bytes with
      | error fault => exact .inr ⟨fault, _, rfl, rfl, rfl, rfl⟩
      | ok pair => exact .inl ⟨_, stop, rfl, rfl, rfl⟩

/-- What S2 signs is what was written for it. -/
theorem ComplexHandshakeServer.writeS2_called (input : Bytes) (world : World ComplexHandshakeServer) :
    callWriteS2 surroundings input world =
      (.ok (), { world with output := world.output ++ world.server.writeS2 surroundings }) := by
  have size : (beU32 surroundings.secondTime ++ beU32 world.server.c1Timestamp ++
      randomBytes surroundings.secondRandom (rtmpHandshakeSize - rtmpDigestLength - timeVersionLength)).length =
        rtmpHandshakeSize - rtmpDigestLength := by
    simp only [List.length_append, length_beU32, length_randomBytes]
    decide
  have signed : ((world.output ++ beU32 surroundings.secondTime ++ beU32 world.server.c1Timestamp ++
      randomBytes surroundings.secondRandom
        (rtmpHandshakeSize - rtmpDigestLength - timeVersionLength)).drop world.output.length).take
          (rtmpHandshakeSize - rtmpDigestLength) =
      beU32 surroundings.secondTime ++ beU32 world.server.c1Timestamp ++
        randomBytes surroundings.secondRandom
          (rtmpHandshakeSize - rtmpDigestLength - timeVersionLength) := by
    rw [List.append_assoc, List.append_assoc, List.drop_left, ← List.append_assoc,
      List.take_of_length_le (Nat.le_of_eq size)]
  have called : callWriteS2 surroundings input world = (.ok (), { world with
      output := (world.output ++ beU32 surroundings.secondTime ++ beU32 world.server.c1Timestamp ++
        randomBytes surroundings.secondRandom
          (rtmpHandshakeSize - rtmpDigestLength - timeVersionLength)) ++
        DigestProcessor.makeDigest surroundings
          (DigestProcessor.makeDigest surroundings rtmpServerKey world.server.c1Digest [])
          (((world.output ++ beU32 surroundings.secondTime ++ beU32 world.server.c1Timestamp ++
            randomBytes surroundings.secondRandom
              (rtmpHandshakeSize - rtmpDigestLength - timeVersionLength)).drop
                world.output.length).take (rtmpHandshakeSize - rtmpDigestLength)) [] }) := rfl
  rw [called, signed]
  simp only [writeS2, List.append_assoc]

/-- S1 is written in three parts, and the parts are S1. -/
theorem ComplexHandshakeServer.writeS1_called {world : World ComplexHandshakeServer} {s1 : Bytes}
    (made : world.server.writeS1 surroundings = .ok s1) (input : Bytes) :
    callWriteS1 surroundings input world =
      (.ok (), { world with output := world.output ++ s1 }) := by
  unfold writeS1 at made
  dsimp only at made
  unfold callWriteS1
  rw [Call.bind_ok (show Call.server input world = (.ok world.server, world) from rfl)]
  dsimp only
  cases filled : DigestProcessor.generateAndFillDigest surroundings rtmpServerKeyFirstHalf
      (beU32 surroundings.firstTime ++ beU32 rtmpServerVersion ++
        randomBytes surroundings.firstRandom (rtmpHandshakeSize - timeVersionLength))
      world.server.schemaVersion with
  | error fault =>
      rw [filled] at made
      cases made
  | ok parts =>
      obtain ⟨first, second, third⟩ := parts
      rw [filled] at made
      cases made
      rw [← List.append_assoc, ← List.append_assoc]
      rfl

theorem ComplexHandshakeServer.answer_called (input : Bytes) (world : World ComplexHandshakeServer) :
    ∃ server bytes, world.server.answer surroundings = .ok (server, bytes) ∧
      callAnswer surroundings input world =
        (.ok (), ⟨server, world.position, world.output ++ bytes⟩) := by
  obtain ⟨s1, made, _⟩ := @ComplexHandshakeServer.writeS1_ok surroundings world.server
  refine ⟨{ world.server with state := .readC2 },
    world.server.writeS0 ++ s1 ++ world.server.writeS2 surroundings, ?_, ?_⟩
  · unfold answer
    rw [made]
    rfl
  · have first : callWriteS0 input world =
        (.ok (), { world with output := world.output ++ world.server.writeS0 }) := rfl
    have second := @writeS1_called surroundings
      { world with output := world.output ++ world.server.writeS0 } s1 made input
    unfold callAnswer
    rw [Call.bind_ok first, Call.bind_ok second, Call.bind_ok (writeS2_called input _)]
    simp only [← List.append_assoc]
    rfl

/-- A call of the complex form does what its round does. -/
theorem ComplexHandshakeServer.call_refines :
    Refines ComplexHandshakeServer.state (call surroundings) (handshake surroundings) := by
  intro input world
  unfold handshake call
  rw [Call.bind_ok (show Call.server input world = (.ok world.server, world) from rfl)]
  cases known : world.server.state with
  | readC0C1 =>
      have last : Refines ComplexHandshakeServer.state (do
          Call.change fun server => { server with state := .writeS0S1S2 }
          callAnswer surroundings) fun server =>
          ofExcept ({ server with state := .writeS0S1S2 }.answer surroundings) := by
        intro input world
        obtain ⟨server, bytes, answered, called⟩ := answer_called input
          { world with server := { world.server with state := .writeS0S1S2 } }
        exact .inl ⟨server, bytes, world.position, ofExcept_ok answered, called⟩
      exact (Refines.behind readC0_called (Refines.behind readC1_called last)) input world
  | writeS0S1S2 =>
      obtain ⟨server, bytes, answered, called⟩ := answer_called input world
      exact .inl ⟨server, bytes, world.position, ofExcept_ok answered, called⟩
  | readC2 =>
      refine .inl ⟨_, [], world.position + rtmpHandshakeSize, rfl, ?_⟩
      rw [List.append_nil]
      rfl
  | finish =>
      refine .inl ⟨world.server, [], world.position, rfl, ?_⟩
      rw [List.append_nil]
      rfl

section Fallback

variable {server : ComplexHandshakeServer} {input : Bytes} {position : Nat} {output : Bytes}
  {fault : HandshakeFault} {left : World ComplexHandshakeServer}

theorem HandshakeServer.handshake_again
    (failed : server.handshake surroundings input position = .error fault) (returned : fault ≠ .panic) :
    (HandshakeServer.complex server).handshake surroundings input position =
      (do
        let (server, output) ← SimpleHandshakeServer.default.handshake surroundings
        return (.simple server, output) : Reader HandshakeFault (HandshakeServer × Bytes))
        input position := by
  rw [HandshakeServer.handshake_complex, failed]
  cases fault with
  | panic => exact absurd rfl returned
  | cannotGenerate => rfl
  | io => rfl

theorem HandshakeServer.call_again
    (failed : ComplexHandshakeServer.call surroundings input ⟨server, position, output⟩ =
      (.error fault, left)) (returned : fault ≠ .panic) :
    call surroundings input ⟨.complex server, position, output⟩ =
      match SimpleHandshakeServer.call surroundings input
          ⟨SimpleHandshakeServer.default, position, left.output⟩ with
      | (.ok (), last) => (.ok (), ⟨.simple last.server, last.position, last.output⟩)
      | (.error fault, last) =>
          (.error fault, ⟨.complex left.server, last.position, last.output⟩) := by
  unfold call
  dsimp only
  rw [failed]
  cases fault with
  | panic => exact absurd rfl returned
  | cannotGenerate => rfl
  | io => rfl

end Fallback

/-- A complex handshake that has failed leaves neither output nor another state behind, so that the
simple one that takes its place does what its own round does. -/
theorem HandshakeServer.call_refines :
    Refines HandshakeServer.state (call surroundings) (handshake surroundings) := by
  intro input world
  obtain ⟨server, position, output⟩ := world
  cases server with
  | simple server =>
      rcases @SimpleHandshakeServer.call_refines surroundings input ⟨server, position, output⟩ with
        ⟨final, bytes, stop, round, called⟩ | ⟨fault, left, failed, called, silent, kept⟩
      · refine .inl ⟨.simple final, bytes, stop, Reader.bind_ok round _, ?_⟩
        unfold call
        dsimp only
        rw [called]
      · refine .inr ⟨fault, ⟨.simple left.server, left.position, left.output⟩,
          Reader.bind_error failed _, ?_, silent, kept⟩
        unfold call
        dsimp only
        rw [called]
  | complex server =>
      rcases @ComplexHandshakeServer.call_refines surroundings input ⟨server, position, output⟩ with
        ⟨final, bytes, stop, round, called⟩ | ⟨fault, left, failed, called, silent, kept⟩
      · refine .inl ⟨.complex final, bytes, stop, ?_, ?_⟩
        · rw [HandshakeServer.handshake_complex, show server.handshake surroundings input position = _
            from round]
        · unfold call
          dsimp only
          rw [called]
      · by_cases halted : fault = .panic
        · subst halted
          refine .inr ⟨.panic, ⟨.complex left.server, left.position, left.output⟩, ?_, ?_, silent, kept⟩
          · rw [HandshakeServer.handshake_complex,
              show server.handshake surroundings input position = _ from failed]
          · unfold call
            dsimp only
            rw [called]
        · -- The second attempt starts with the output as the first one left it.
          have silent : left.output = output := silent
          rw [handshake_again failed halted, call_again called halted, silent]
          rcases @SimpleHandshakeServer.call_refines surroundings input
              ⟨SimpleHandshakeServer.default, position, output⟩ with
            ⟨final, bytes, stop, round, again⟩ | ⟨last, behind, missed, again, quiet, _⟩
          · rw [again]
            exact .inl ⟨.simple final, bytes, stop, Reader.bind_ok round _, rfl⟩
          · rw [again]
            exact .inr ⟨last, _, Reader.bind_error missed _, rfl, quiet, kept⟩

/-! ## Input that is too short -/

theorem SimpleHandshakeServer.readC1_takes (server : SimpleHandshakeServer) :
    Takes rtmpHandshakeSize server.readC1 := by
  have random : Takes (rtmpHandshakeSize - timeVersionLength)
      (Reader.extractBytes (rtmpHandshakeSize - timeVersionLength) : Reader HandshakeFault Bytes) :=
    Takes.extractBytes (by decide)
  exact Takes.bind Takes.readU32 fun _ => Takes.bind Takes.readU32 fun _ => Takes.map random _

/-- The simple form starves on a C0 and a C1 that are not there in full. -/
theorem SimpleHandshakeServer.handshake_short {input : Bytes}
    (short : input.length < rtmpHandshakeSize + 1) :
    SimpleHandshakeServer.default.handshake surroundings input 0 = .error .io := by
  have whole : Takes (1 + (rtmpHandshakeSize + 0)) (SimpleHandshakeServer.default.handshake surroundings) :=
    Takes.bind (Takes.map Takes.readU8 _) fun server => Takes.map server.readC1_takes _
  rcases whole input 0 with ⟨present, _⟩ | ⟨_, starved⟩
  · omega
  · exact starved

/-- So does the complex form, which looks for no digest then. -/
theorem ComplexHandshakeServer.handshake_short {input : Bytes}
    (short : input.length < rtmpHandshakeSize + 1) :
    ComplexHandshakeServer.default.handshake surroundings input 0 = .error .io := by
  have start : ComplexHandshakeServer.default.handshake surroundings input 0 =
      (do
        let server ← ComplexHandshakeServer.default.readC0
        let server ← server.readC1 surroundings
        ofExcept ({ server with state := .writeS0S1S2 }.answer surroundings) :
          Reader HandshakeFault (ComplexHandshakeServer × Bytes)) input 0 := rfl
  rw [start]
  have c0 : Takes 1 ComplexHandshakeServer.default.readC0 := Takes.map Takes.readU8 _
  have c1 : Takes rtmpHandshakeSize (Reader.extractBytes rtmpHandshakeSize :
    Reader HandshakeFault Bytes) := Takes.extractBytes (by decide)
  rcases c0 input 0 with ⟨present, server, read⟩ | ⟨_, starved⟩
  · rw [bind_ok read]
    rcases c1 input (0 + 1) with ⟨present, _⟩ | ⟨_, starved⟩
    · omega
    · exact bind_error (bind_error starved _) _
  · exact bind_error starved _

/-! ## The first call and the next -/

/-- The simple form sends the time and the random bytes of C1 back. -/
theorem Answers.echo {c1 s1 s2 : Bytes} (answers : Answers surroundings c1 s1 s2)
    (size : c1.length = rtmpHandshakeSize)
    (invalid : DigestProcessor.readDigest surroundings rtmpClientKeyFirstHalf c1 =
      .error .cannotGenerate) :
    s2 = c1.take 4 ++ beU32 surroundings.secondTime ++ c1.drop timeVersionLength := by
  rcases answers with ⟨server, valid, _⟩ | ⟨_, server, time, random, _, rfl⟩
  · rw [invalid] at valid
    cases valid
  · have four : (c1.take 4).length = 4 := by
      rw [List.length_take, size]
      rfl
    have bound := ofBytesBE_lt (c1.take 4)
    rw [four] at bound
    have same : (UInt32.ofNat (ofBytesBE (c1.take 4))).toNat = ofBytesBE (c1.take 4) :=
      UInt32.toNat_ofNat_of_lt' bound
    have back := toBytesBE_ofBytesBE (c1.take 4)
    rw [four] at back
    rw [SimpleHandshakeServer.writeS2, time, random, timeOf, beU32, same, back]

/-- With enough input the first call writes S0, S1 and S2 and waits for C2. -/
theorem HandshakeServer.call_first {input : Bytes} (enough : rtmpHandshakeSize + 1 ≤ input.length)
    (output : Bytes) :
    ∃ server s1 s2, call surroundings input ⟨HandshakeServer.default, 0, output⟩ =
        (.ok (), ⟨server, rtmpHandshakeSize + 1, output ++ ([3] ++ s1 ++ s2)⟩) ∧
      s1.length = rtmpHandshakeSize ∧ s2.length = rtmpHandshakeSize ∧ server.state = .readC2 ∧
      ∀ form, server = .simple form → s2 =
        ((input.drop 1).take rtmpHandshakeSize).take 4 ++ beU32 surroundings.secondTime ++
          ((input.drop 1).take rtmpHandshakeSize).drop timeVersionLength := by
  obtain ⟨server, s1, s2, round, waits, answers, form⟩ :=
    @HandshakeServer.handshake_form surroundings input enough
  have size : ((input.drop 1).take rtmpHandshakeSize).length = rtmpHandshakeSize := by
    rw [List.length_take, List.length_drop]
    omega
  obtain ⟨firstSize, secondSize⟩ := answers.length size
  refine ⟨server, s1, s2, ?_, firstSize, secondSize, waits, ?_⟩
  · rcases @HandshakeServer.call_refines surroundings input ⟨HandshakeServer.default, 0, output⟩ with
      ⟨final, bytes, stop, again, called⟩ | ⟨fault, left, failed, _⟩
    · rw [show HandshakeServer.default.handshake surroundings input 0 = _ from again] at round
      cases round
      exact called
    · rw [show HandshakeServer.default.handshake surroundings input 0 = _ from failed] at round
      cases round
  · rintro simple rfl
    rcases form with ⟨complex, same⟩ | ⟨_, invalid⟩
    · cases same
    · exact answers.echo size invalid

/-- With less it fails, in the simple form as in the complex one. -/
theorem HandshakeServer.call_short {input : Bytes} (short : input.length < rtmpHandshakeSize + 1)
    (output : Bytes) :
    ∃ fault left, call surroundings input ⟨HandshakeServer.default, 0, output⟩ = (.error fault, left) ∧
      fault ≠ .panic ∧ left.output = output ∧ left.server.state = .readC0C1 := by
  have failed : HandshakeServer.default.handshake surroundings input 0 = .error .io := by
    rw [HandshakeServer.default,
      handshake_again (ComplexHandshakeServer.handshake_short short) (by decide)]
    exact bind_error (SimpleHandshakeServer.handshake_short short) _
  rcases @HandshakeServer.call_refines surroundings input ⟨HandshakeServer.default, 0, output⟩ with
    ⟨final, bytes, stop, round, _⟩ | ⟨fault, left, again, called, silent, kept⟩
  · rw [show HandshakeServer.default.handshake surroundings input 0 = _ from round] at failed
    cases failed
  · rw [show HandshakeServer.default.handshake surroundings input 0 = _ from again] at failed
    cases failed
    exact ⟨.io, left, called, by decide, silent, kept⟩

/-- A call of the complex form that fails has written nothing. -/
theorem ComplexHandshakeServer.call_silent {input : Bytes} {world left : World ComplexHandshakeServer}
    {fault : HandshakeFault} (failed : call surroundings input world = (.error fault, left)) :
    left.output = world.output := by
  rcases @ComplexHandshakeServer.call_refines surroundings input world with
    ⟨final, bytes, stop, _, again⟩ | ⟨_, _, _, again, silent, _⟩
  · rw [failed] at again
    cases again
  · rw [failed] at again
    cases again
    exact silent

/-- A call that waits for C2 passes over its bytes and is finished. -/
theorem HandshakeServer.call_second {server : HandshakeServer} (waits : server.state = .readC2)
    (input : Bytes) (position : Nat) (output : Bytes) :
    ∃ finished, call surroundings input ⟨server, position, output⟩ =
        (.ok (), ⟨finished, position + rtmpHandshakeSize, output⟩) ∧ finished.state = .finish := by
  cases server with
  | simple server =>
      refine ⟨.simple { server with state := .finish }, ?_, rfl⟩
      have step : SimpleHandshakeServer.call surroundings input ⟨server, position, output⟩ =
          (.ok (), ⟨{ server with state := .finish }, position + rtmpHandshakeSize, output⟩) := by
        unfold SimpleHandshakeServer.call
        rw [Call.bind_ok rfl, show server.state = .readC2 from waits]
        rfl
      unfold call
      dsimp only
      rw [step]
  | complex server =>
      refine ⟨.complex { server with state := .finish }, ?_, rfl⟩
      have step : ComplexHandshakeServer.call surroundings input ⟨server, position, output⟩ =
          (.ok (), ⟨{ server with state := .finish }, position + rtmpHandshakeSize, output⟩) := by
        unfold ComplexHandshakeServer.call
        rw [Call.bind_ok rfl, show server.state = .readC2 from waits]
        rfl
      unfold call
      dsimp only
      rw [step]

/-- The first call of a new server: with enough input it answers in full and waits for C2, which the
next call passes over.  With less it fails, and has neither written nor changed its state. -/
theorem HandshakeServer.call_contract (first second : Surroundings) (input output : Bytes) :
    (rtmpHandshakeSize + 1 ≤ input.length →
      (∃ server s1 s2,
        call first input ⟨HandshakeServer.default, 0, output⟩ =
          (.ok (), ⟨server, 1537, output ++ ([3] ++ s1 ++ s2)⟩) ∧
        s1.length = 1536 ∧ s2.length = 1536 ∧ ([3] ++ s1 ++ s2).length = 3073 ∧
        server.state = .readC2 ∧
        (∀ form, server = .simple form → s2 =
          ((input.drop 1).take 1536).take 4 ++ beU32 first.secondTime ++
            ((input.drop 1).take 1536).drop 8) ∧
        ∀ next position written, position + 1536 ≤ next.length →
          ∃ finished, call second next ⟨server, position, written⟩ =
            (.ok (), ⟨finished, position + 1536, written⟩) ∧ finished.state = .finish) ∧
      ∀ fault left, ComplexHandshakeServer.call first input
          ⟨ComplexHandshakeServer.default, 0, output⟩ = (.error fault, left) →
        left.output = output) ∧
    (input.length < rtmpHandshakeSize + 1 →
      ∃ fault left, call first input ⟨HandshakeServer.default, 0, output⟩ = (.error fault, left) ∧
        fault ≠ .panic ∧ left.output = output ∧ left.server.state = .readC0C1) := by
  constructor
  · intro enough
    constructor
    · obtain ⟨server, s1, s2, called, firstSize, secondSize, waits, echoed⟩ :=
        @HandshakeServer.call_first first input enough output
      refine ⟨server, s1, s2, called, firstSize, secondSize, ?_, waits, echoed, ?_⟩
      · rw [List.length_append, List.length_append, firstSize, secondSize]
        rfl
      · intro next position written _
        exact HandshakeServer.call_second waits next position written
    · intro fault left called
      exact ComplexHandshakeServer.call_silent called
  · intro short
    exact HandshakeServer.call_short short output

theorem HandshakeServer.call_contract_quiet :
    (∃ server s1 s2, call quiet (List.replicate 1537 0) ⟨HandshakeServer.default, 0, []⟩ =
        (.ok (), ⟨server, 1537, [] ++ ([3] ++ s1 ++ s2)⟩) ∧ server.state = .readC2) ∧
      ∃ fault left, call quiet (List.replicate 1536 0) ⟨HandshakeServer.default, 0, []⟩ =
        (.error fault, left) ∧ left.output = [] := by
  constructor
  · have enough : rtmpHandshakeSize + 1 ≤ (List.replicate 1537 (0 : UInt8)).length :=
      Nat.le_of_eq (List.length_replicate ..).symm
    obtain ⟨⟨server, s1, s2, called, _, _, _, waits, _⟩, _⟩ :=
      (HandshakeServer.call_contract quiet quiet (List.replicate 1537 0) []).1 enough
    exact ⟨server, s1, s2, called, waits⟩
  · have short : (List.replicate 1536 (0 : UInt8)).length < rtmpHandshakeSize + 1 := by
      rw [List.length_replicate]
      decide
    obtain ⟨fault, left, called, _, silent, _⟩ :=
      (HandshakeServer.call_contract quiet quiet (List.replicate 1536 0) []).2 short
    exact ⟨fault, left, called, silent⟩

end

end ScuffleVideo.Rtmp.Handshake
