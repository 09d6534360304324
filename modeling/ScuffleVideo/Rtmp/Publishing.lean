import ScuffleVideo.Rtmp.ServerSession

/-!
# Publishing

What the handlers of a session do to the five fields that carry its publishing
state is said once, by `Effect`.  The ledger is the abstract account: whether the
client has connected, which stream media may go to, and which accepted publishes
have not been deleted.  The session follows the ledger in its target, but it
keeps only the last publish.
-/

namespace ScuffleVideo.Rtmp.Server

open Wire Amf0

/-- What a message means for publishing. -/
inductive Kind where
  | connect (hasApp : Bool)
  | publish (named : Bool)
  | delete (streamId : UInt32)
  | media (data : ChannelData)
  | other

/-- The application name that a connect command must carry is there. -/
def hasApp (properties : List (String × Amf0Value)) : Bool :=
  match properties.find? fun property => property.1 == "app" with
  | some (_, .string _) => true
  | _ => false

def isNamed (others : List Amf0Value) : Bool :=
  match others.head? with
  | some (.string _) => true
  | _ => false

def commandKind (commandName commandObject : Amf0Value) (others : List Amf0Value) : Kind :=
  match Session.commandOf commandName with
  | .connect => .connect (hasApp (Session.propertiesOf commandObject))
  | .publish => .publish (isNamed others)
  | .deleteStream => .delete (Session.deletedStream others)
  | _ => .other

def Received.kind (received : Received) : Kind :=
  match received.message with
  | .amf0Command commandName _ commandObject others => commandKind commandName commandObject others
  | .setChunkSize _ => .other
  | .audioData data => .media (.audio received.timestamp data)
  | .videoData data => .media (.video received.timestamp data)
  | .amfData data => .media (.metadata received.timestamp data)

/-! ## What handling a message can do -/

/-- The fields of a session that publishing is about. -/
structure Publishing where
  appName : Option String
  uid : Option UniqueID
  streamId : UInt32
  isPublishing : Bool
  sent : List ChannelData

def Session.publishing (session : Session) : Publishing where
  appName := session.appName
  uid := session.uid
  streamId := session.streamId
  isPublishing := session.isPublishing
  sent := session.sent

/-- Every way in which a message is handled, and whether the session goes on. -/
inductive Effect (state : Publishing) (received : Received) : Publishing → Bool → Prop
  | sent {data : ChannelData} (kind : received.kind = .media data)
      (stream : received.streamId = state.streamId) (publishing : state.isPublishing = true)
      (taken : received.answer.data = true) :
      Effect state received { state with sent := state.sent ++ [data] } true
  | unsent {data : ChannelData} (kind : received.kind = .media data)
      (reason : received.streamId ≠ state.streamId ∨ state.isPublishing = false ∨
        received.answer.data = false) :
      Effect state received state false
  | connected {app : String} {goesOn : Bool} (kind : received.kind = .connect true) :
      Effect state received { state with appName := some app } goesOn
  | unconnected {hasApp : Bool} (kind : received.kind = .connect hasApp) :
      Effect state received state false
  | published {uid : UniqueID} {goesOn : Bool} (kind : received.kind = .publish true)
      (connected : state.appName.isSome = true) (accepted : received.answer.publish = some uid) :
      Effect state received
        { state with uid := some uid, isPublishing := true, streamId := received.streamId } goesOn
  | unpublished {named : Bool} (kind : received.kind = .publish named) :
      Effect state received state false
  | deleted {streamId : UInt32} {goesOn : Bool} (kind : received.kind = .delete streamId)
      (same : state.streamId = streamId) (publishing : state.isPublishing = true) :
      Effect state received { state with streamId := 0, isPublishing := false } goesOn
  | undeleted {streamId : UInt32} {goesOn : Bool} (kind : received.kind = .delete streamId)
      (reason : ¬ (state.streamId = streamId ∧ state.isPublishing = true)) :
      Effect state received state goesOn
  | other {goesOn : Bool} (kind : received.kind = .other) : Effect state received state goesOn

/-- Handling ends well, or with an error that is not the client going away. -/
def Ends (result : Except SessionError Unit) (goesOn : Bool) : Prop :=
  match result with
  | .ok () => goesOn = true
  | .error error => goesOn = false ∧ error.isClientClosed = false

namespace Session

theorem write_spec (session : Session) (response : ChunkEncoder → Except WriteFault Bytes) :
    (session.write response).1.publishing = session.publishing ∧
      ∃ goesOn, Ends (session.write response).2 goesOn := by
  unfold write
  cases response session.chunkEncoder with
  | ok bytes => exact ⟨rfl, true, rfl⟩
  | error fault => exact ⟨rfl, false, rfl, rfl⟩

theorem andThen_cases (first : Step) (next : Session → Step) :
    (∃ error, first.2 = .error error ∧ andThen first next = (first.1, .error error)) ∨
      first.2 = .ok () ∧ andThen first next = next first.1 := by
  obtain ⟨session, result⟩ := first
  cases result with
  | error error => exact .inl ⟨error, rfl, rfl⟩
  | ok done => exact .inr ⟨rfl, rfl⟩

/-- A response and then more: what is written before changes nothing that is
published. -/
theorem andThen_write (session : Session) (response : ChunkEncoder → Except WriteFault Bytes)
    (next : Session → Step) :
    (∃ error, error.isClientClosed = false ∧
        (andThen (session.write response) next).1.publishing = session.publishing ∧
        (andThen (session.write response) next).2 = .error error) ∨
      ∃ written, written.publishing = session.publishing ∧
        andThen (session.write response) next = next written := by
  obtain ⟨same, goesOn, ended⟩ := write_spec session response
  rcases andThen_cases (session.write response) next with ⟨error, failed, result⟩ | ⟨done, result⟩
  · rw [failed] at ended
    exact .inl ⟨error, ended.2, by rw [result]; exact same, by rw [result]⟩
  · exact .inr ⟨_, same, result⟩

/-- The step is one of the effects of the message. -/
def HasEffect (session : Session) (received : Received) (step : Step) : Prop :=
  ∃ goesOn, Ends step.2 goesOn ∧
    Effect session.publishing received step.1.publishing goesOn

variable {session : Session} {received : Received}

theorem onData_effect {data : ChannelData} (kind : received.kind = .media data) :
    HasEffect session received (onData received.answer session received.streamId data) := by
  unfold onData
  split
  · rename_i unknown
    refine ⟨false, ⟨rfl, rfl⟩, .unsent kind ?_⟩
    rcases unknown with other | idle
    · exact .inl other
    · exact .inr (.inl idle)
  · rename_i known
    rw [not_or, not_not, Bool.not_eq_false] at known
    split
    · rename_i taken
      exact ⟨true, rfl, .sent kind known.1 known.2 taken⟩
    · rename_i dropped
      exact ⟨false, ⟨rfl, rfl⟩, .unsent kind (.inr (.inr (Bool.eq_false_iff.mpr dropped)))⟩

/-- A response that is written last, after the state has become `changed`. -/
theorem write_effect {changed : Session} (response : ChunkEncoder → Except WriteFault Bytes)
    (effect : ∀ goesOn, Effect session.publishing received changed.publishing goesOn) :
    HasEffect session received (changed.write response) := by
  obtain ⟨same, goesOn, ended⟩ := write_spec changed response
  refine ⟨goesOn, ended, ?_⟩
  rw [same]
  exact effect goesOn

theorem andThen_write_effect {changed : Session} {response : ChunkEncoder → Except WriteFault Bytes}
    {next : Session → Step} (failed : Effect session.publishing received changed.publishing false)
    (later : ∀ written : Session, written.publishing = changed.publishing →
      HasEffect session received (next written)) :
    HasEffect session received (andThen (changed.write response) next) := by
  rcases andThen_write changed response next with
    ⟨error, notClosed, same, result⟩ | ⟨written, same, result⟩
  · refine ⟨false, ?_, ?_⟩
    · rw [result]
      exact ⟨rfl, notClosed⟩
    · rw [same]
      exact failed
  · rw [result]
    exact later written same

theorem onCommandConnect_effect {transactionId : UInt64} {properties : List (String × Amf0Value)}
    (kind : received.kind = .connect (hasApp properties)) :
    HasEffect session received (onCommandConnect session transactionId properties) := by
  unfold onCommandConnect
  apply andThen_write_effect (.unconnected kind)
  intro first firstSame
  apply andThen_write_effect
  · rw [firstSame]
    exact .unconnected kind
  intro second secondSame
  unfold hasApp at kind
  split
  · rename_i app found
    rw [found] at kind
    apply write_effect
    intro goesOn
    have changed : ({ second with appName := some app } : Session).publishing =
        { session.publishing with appName := some app } := by
      rw [← firstSame, ← secondSame]
      rfl
    rw [changed]
    exact .connected kind
  · refine ⟨false, ⟨rfl, rfl⟩, ?_⟩
    rw [secondSame, firstSame]
    exact .unconnected kind

theorem onCommandDeleteStream_effect {transactionId : UInt64} {others : List Amf0Value}
    (kind : received.kind = .delete (deletedStream others)) :
    HasEffect session received (onCommandDeleteStream session transactionId others) := by
  unfold onCommandDeleteStream
  apply write_effect
  intro goesOn
  by_cases current : session.streamId = deletedStream others ∧ session.isPublishing = true
  · rw [if_pos current]
    exact .deleted kind current.1 current.2
  · rw [if_neg current]
    exact .undeleted kind current

theorem onCommandPublish_effect {transactionId : UInt64} {others : List Amf0Value}
    (kind : received.kind = .publish (isNamed others)) :
    HasEffect session received
      (onCommandPublish received.answer session transactionId received.streamId others) := by
  unfold onCommandPublish
  split
  · rename_i name found
    have named : isNamed others = true := by rw [isNamed, found]
    rw [named] at kind
    split
    · exact ⟨false, ⟨rfl, rfl⟩, .unpublished kind⟩
    · rename_i app connected
      have isConnected : session.publishing.appName.isSome = true :=
        Option.isSome_iff_exists.mpr ⟨app, connected⟩
      split
      · exact ⟨false, ⟨rfl, rfl⟩, .unpublished kind⟩
      · rename_i uid accepted
        apply andThen_write_effect (.published kind isConnected accepted)
        intro written same
        apply write_effect
        intro goesOn
        rw [same]
        exact .published kind isConnected accepted
  · exact ⟨false, ⟨rfl, rfl⟩, .unpublished kind⟩

theorem onSetChunkSize_effect {size : Nat} (kind : received.kind = .other) :
    HasEffect session received (session.onSetChunkSize size) := by
  unfold onSetChunkSize
  split
  · exact ⟨true, rfl, .other kind⟩
  · exact ⟨false, ⟨rfl, rfl⟩, .other kind⟩

theorem onAmf0CommandMessage_effect {commandName transactionId commandObject : Amf0Value}
    {others : List Amf0Value}
    (kind : received.kind = commandKind commandName commandObject others) :
    HasEffect session received (onAmf0CommandMessage received.answer session received.streamId
      commandName transactionId commandObject others) := by
  unfold commandKind at kind
  unfold onAmf0CommandMessage
  cases command : commandOf commandName with
  | connect => exact onCommandConnect_effect (by rw [kind, command])
  | createStream => exact write_effect _ fun goesOn => .other (by rw [kind, command])
  | publish => exact onCommandPublish_effect (by rw [kind, command])
  | play => exact ⟨false, ⟨rfl, rfl⟩, .other (by rw [kind, command])⟩
  | deleteStream => exact onCommandDeleteStream_effect (by rw [kind, command])
  | closeStream => exact ⟨true, rfl, .other (by rw [kind, command])⟩
  | releaseStream => exact ⟨true, rfl, .other (by rw [kind, command])⟩
  | unknown name => exact ⟨true, rfl, .other (by rw [kind, command])⟩

/-- Handling a message is one of its effects. -/
theorem handle_effect (session : Session) (received : Received) :
    HasEffect session received (session.handle received) := by
  unfold handle processMessages
  cases message : received.message with
  | amf0Command commandName transactionId commandObject others =>
      exact onAmf0CommandMessage_effect (by rw [Received.kind, message])
  | amfData data => exact onData_effect (by rw [Received.kind, message])
  | setChunkSize size => exact onSetChunkSize_effect (by rw [Received.kind, message])
  | audioData data => exact onData_effect (by rw [Received.kind, message])
  | videoData data => exact onData_effect (by rw [Received.kind, message])

end Session

/-! ## The ledger -/

/-- The abstract account of a session: whether a connect has been accepted, the
stream of the most recent accepted publish unless it has been deleted since, and
the streams of all accepted publishes that have not been deleted. -/
structure Ledger where
  connected : Bool
  target : Option UInt32
  undeleted : List UInt32

namespace Ledger

def start : Ledger := ⟨false, none, []⟩

/-- The message is a publish and the consumer accepts it. -/
def publishes (ledger : Ledger) (received : Received) : Bool :=
  match received.kind with
  | .publish named => named && ledger.connected && received.answer.publish.isSome
  | _ => false

def next (ledger : Ledger) (received : Received) : Ledger :=
  match received.kind with
  | .connect hasApp => { ledger with connected := ledger.connected || hasApp }
  | .publish _ =>
      if ledger.publishes received then
        { ledger with
          target := some received.streamId, undeleted := received.streamId :: ledger.undeleted }
      else ledger
  | .delete streamId =>
      { ledger with
        target := if ledger.target = some streamId then none else ledger.target
        undeleted := ledger.undeleted.filter (· ≠ streamId) }
  | _ => ledger

/-- The item of a media message that belongs to the target and is taken. -/
def delivers (ledger : Ledger) (received : Received) : Option ChannelData :=
  match received.kind with
  | .media data =>
      if ledger.target = some received.streamId ∧ received.answer.data = true then some data
      else none
  | _ => none

/-- The ledger after messages. -/
def after (ledger : Ledger) (messages : List Received) : Ledger := messages.foldl next ledger

/-- The items that messages deliver. -/
def delivered (ledger : Ledger) : List Received → List ChannelData
  | [] => []
  | received :: messages =>
      (ledger.delivers received).toList ++ (ledger.next received).delivered messages

end Ledger

/-- The session's publishing state and the ledger say the same. -/
structure Refines (state : Publishing) (ledger : Ledger) : Prop where
  connected : state.appName.isSome = ledger.connected
  publishing : state.isPublishing = ledger.target.isSome
  stream : ∀ streamId, ledger.target = some streamId → state.streamId = streamId

/-- A session that publishes has an application name and an id. -/
def Publishing.Identified (state : Publishing) : Prop :=
  state.isPublishing = true → state.appName.isSome = true ∧ state.uid.isSome = true

section Steps

variable {state after : Publishing} {received : Received} {ledger : Ledger} {goesOn : Bool}

theorem Effect.identified (effect : Effect state received after goesOn)
    (identified : state.Identified) : after.Identified := by
  cases effect with
  | sent kind stream publishing taken => exact identified
  | unsent kind reason => exact identified
  | connected kind => exact fun publishing => ⟨rfl, (identified publishing).2⟩
  | unconnected kind => exact identified
  | published kind connected accepted => exact fun _ => ⟨connected, rfl⟩
  | unpublished kind => exact identified
  | deleted kind same publishing => exact fun impossible => by cases impossible
  | undeleted kind reason => exact identified
  | other kind => exact identified

/-- The target names a stream exactly when the session publishes on it. -/
theorem Refines.target_iff (refines : Refines state ledger) {streamId : UInt32} :
    ledger.target = some streamId ↔ state.streamId = streamId ∧ state.isPublishing = true := by
  constructor
  · intro same
    refine ⟨refines.stream streamId same, ?_⟩
    rw [refines.publishing, same]
    rfl
  · rintro ⟨rfl, publishing⟩
    rw [refines.publishing] at publishing
    obtain ⟨found, same⟩ := Option.isSome_iff_exists.mp publishing
    rw [same, refines.stream found same]

/-- What is sent is what the ledger delivers. -/
theorem Effect.sent_eq (effect : Effect state received after goesOn)
    (refines : Refines state ledger) :
    after.sent = state.sent ++ (ledger.delivers received).toList := by
  unfold Ledger.delivers
  cases effect with
  | sent kind stream publishing taken =>
      rw [kind]
      dsimp only
      rw [if_pos ⟨refines.target_iff.mpr ⟨stream.symm, publishing⟩, taken⟩]
      rfl
  | unsent kind reason =>
      rw [kind]
      dsimp only
      rw [if_neg]
      · exact (List.append_nil _).symm
      · rintro ⟨same, taken⟩
        obtain ⟨stream, publishing⟩ := refines.target_iff.mp same
        rcases reason with other | idle | dropped
        · exact other stream.symm
        · rw [publishing] at idle
          cases idle
        · rw [taken] at dropped
          cases dropped
  | connected kind => rw [kind]; exact (List.append_nil _).symm
  | unconnected kind => rw [kind]; exact (List.append_nil _).symm
  | published kind connected accepted => rw [kind]; exact (List.append_nil _).symm
  | unpublished kind => rw [kind]; exact (List.append_nil _).symm
  | deleted kind same publishing => rw [kind]; exact (List.append_nil _).symm
  | undeleted kind reason => rw [kind]; exact (List.append_nil _).symm
  | other kind => rw [kind]; exact (List.append_nil _).symm

/-- A media message that is not delivered ends the session. -/
theorem Effect.stops (effect : Effect state received after goesOn)
    (refines : Refines state ledger) {data : ChannelData} (media : received.kind = .media data)
    (undelivered : ledger.delivers received = none) : goesOn = false := by
  cases effect with
  | sent kind stream publishing taken =>
      unfold Ledger.delivers at undelivered
      rw [kind] at undelivered
      dsimp only at undelivered
      rw [if_pos ⟨refines.target_iff.mpr ⟨stream.symm, publishing⟩, taken⟩] at undelivered
      cases undelivered
  | unsent kind reason => rfl
  | connected kind => rw [kind] at media; cases media
  | unconnected kind => rfl
  | published kind connected accepted => rw [kind] at media; cases media
  | unpublished kind => rfl
  | deleted kind same publishing => rw [kind] at media; cases media
  | undeleted kind reason => rw [kind] at media; cases media
  | other kind => rw [kind] at media; cases media

/-- A message after which the session goes on keeps it in step with the ledger. -/
theorem Effect.refines (effect : Effect state received after true)
    (refines : Refines state ledger) : Refines after (ledger.next received) := by
  unfold Ledger.next
  cases effect with
  | sent kind stream publishing taken =>
      rw [kind]
      exact ⟨refines.connected, refines.publishing, refines.stream⟩
  | connected kind =>
      rw [kind]
      exact ⟨(Bool.or_true _).symm, refines.publishing, refines.stream⟩
  | published kind connected accepted =>
      have taken : ledger.publishes received = true := by
        rw [Ledger.publishes, kind]
        dsimp only
        rw [← refines.connected, connected, accepted]
        rfl
      rw [kind]
      dsimp only
      rw [if_pos taken]
      exact ⟨refines.connected, rfl, fun streamId same => Option.some.inj same⟩
  | deleted kind same publishing =>
      have current := refines.target_iff.mpr ⟨same, publishing⟩
      rw [kind]
      dsimp only
      rw [if_pos current]
      exact ⟨refines.connected, rfl, nofun⟩
  | undeleted kind reason =>
      have other := fun current => reason (refines.target_iff.mp current)
      rw [kind]
      dsimp only
      rw [if_neg other]
      exact ⟨refines.connected, refines.publishing, refines.stream⟩
  | other kind =>
      rw [kind]
      exact refines

end Steps

/-! ## Whole runs -/

/-- The session handles messages one by one until one of them, or something
between them, ends it. -/
inductive Follows : Publishing → List (Received × Session) → Publishing → Bool → Prop
  | done {state : Publishing} {goesOn : Bool} : Follows state [] state goesOn
  | stopped {state : Publishing} {received : Received} {session : Session}
      (effect : Effect state received session.publishing false) :
      Follows state [(received, session)] session.publishing false
  | handled {state last : Publishing} {received : Received} {session : Session}
      {transcript : List (Received × Session)} {goesOn : Bool}
      (effect : Effect state received session.publishing true)
      (rest : Follows session.publishing transcript last goesOn) :
      Follows state ((received, session) :: transcript) last goesOn

theorem Follows.append {state middle last : Publishing} {first second : List (Received × Session)}
    {goesOn : Bool} (follows : Follows state first middle true)
    (further : Follows middle second last goesOn) :
    Follows state (first ++ second) last goesOn := by
  generalize reached : true = went at follows
  induction follows with
  | done => exact further
  | stopped effect => cases reached
  | handled effect rest ih => exact .handled effect (ih further reached)

namespace Session

variable (checks : OverflowChecks) (shortRead : ShortRead)

theorem parseChunksLoop_follows (answers : Nat → Answer) (fuel index : Nat) (session : Session) :
    ∃ goesOn, Ends (parseChunksLoop checks shortRead answers fuel index session).result goesOn ∧
      Follows session.publishing
        (parseChunksLoop checks shortRead answers fuel index session).transcript
        (parseChunksLoop checks shortRead answers fuel index session).session.publishing goesOn := by
  induction fuel generalizing index session with
  | zero => exact ⟨true, rfl, .done⟩
  | succ fuel ih =>
      unfold parseChunksLoop
      split
      · exact ⟨false, ⟨rfl, rfl⟩, .done⟩
      · exact ⟨true, rfl, .done⟩
      · rename_i chunk decoder readBuf _
        dsimp only
        split
        · exact ⟨false, ⟨rfl, rfl⟩, .done⟩
        · exact ih index { session with chunkDecoder := decoder, readBuf := readBuf }
        · rename_i message _
          obtain ⟨goesOn, ended, effect⟩ := handle_effect
            { session with chunkDecoder := decoder, readBuf := readBuf }
            ⟨message, chunk.messageHeader.msgStreamId, chunk.messageHeader.timestamp, answers index⟩
          split
          · rename_i next error handled
            rw [handled] at ended effect
            obtain ⟨rfl, notClosed⟩ := ended
            exact ⟨false, ⟨rfl, notClosed⟩, .stopped effect⟩
          · rename_i next handled
            rw [handled] at ended effect
            obtain rfl : goesOn = true := ended
            obtain ⟨goesOn, ended, follows⟩ := ih (index + 1) next
            exact ⟨goesOn, ended, .handled effect follows⟩

theorem parseChunks_follows (answers : Nat → Answer) (session : Session) :
    ∃ goesOn, Ends (parseChunks checks shortRead answers session).result goesOn ∧
      Follows session.publishing (parseChunks checks shortRead answers session).transcript
        (parseChunks checks shortRead answers session).session.publishing goesOn :=
  parseChunksLoop_follows checks shortRead answers _ 0 session

/-- A round fills the buffer and parses, or it does nothing because of the network. -/
theorem doReady_cases (session : Session) (turn : Turn) :
    (∃ ready : Session,
        ready = { session with skipRead := ready.skipRead, readBuf := ready.readBuf } ∧
        doReady checks shortRead session turn =
          ⟨(parseChunks checks shortRead turn.answers ready).transcript,
            (parseChunks checks shortRead turn.answers ready).session,
            (parseChunks checks shortRead turn.answers ready).result.map fun _ => true⟩) ∨
      (∃ failure : IoFailure,
        doReady checks shortRead session turn = ⟨[], session, .error failure.error⟩) ∨
      doReady checks shortRead session turn = ⟨[], session, .ok false⟩ := by
  unfold doReady
  dsimp only
  split
  · exact .inl ⟨{ session with skipRead := false }, rfl, rfl⟩
  · split
    · exact .inr (.inl ⟨_, rfl⟩)
    · split
      · exact .inr (.inr rfl)
      · rename_i bytes _ _
        exact .inl ⟨{ session with readBuf := session.readBuf ++ bytes }, rfl, rfl⟩

theorem flush_publishing (session : Session) (written : Except IoFailure Unit) :
    (session.flush written).1.publishing = session.publishing := by
  unfold flush
  split
  · rfl
  · split <;> rfl

/-- What a run of the ready phase says about its result. -/
structure RunSpec (start : Publishing) (run : Progress (Option (Except SessionError Bool))) :
    Prop where
  follows : ∃ goesOn, Follows start run.transcript run.session.publishing goesOn ∧
    (goesOn = false → ∃ error, run.result = some (.error error))
  returned : ∀ graceful, run.result = some (.ok graceful) →
    graceful = !run.session.isPublishing

theorem runReady_spec (session : Session) (turns : List Turn) :
    RunSpec session.publishing (runReady checks shortRead session turns) := by
  induction turns generalizing session with
  | nil => exact ⟨⟨true, .done, nofun⟩, nofun⟩
  | cons turn turns ih =>
      rw [runReady]
      rcases doReady_cases checks shortRead session turn with
        ⟨ready, filled, result⟩ | ⟨failure, result⟩ | result
      · rw [result]
        obtain ⟨goesOn, ended, follows⟩ := parseChunks_follows checks shortRead turn.answers ready
        have same : ready.publishing = session.publishing :=
          (congrArg Session.publishing filled).trans rfl
        rw [same] at follows
        cases parsed : (parseChunks checks shortRead turn.answers ready).result with
        | error error =>
            rw [parsed] at ended
            obtain ⟨rfl, notClosed⟩ := ended
            dsimp only [Except.map]
            rw [if_neg (Bool.eq_false_iff.mp notClosed)]
            exact ⟨⟨false, follows, fun _ => ⟨error, rfl⟩⟩, fun graceful impossible => by
              cases impossible⟩
        | ok done =>
            rw [parsed] at ended
            obtain rfl : goesOn = true := ended
            have kept := flush_publishing (parseChunks checks shortRead turn.answers ready).session
              turn.flush
            dsimp only [Except.map]
            split
            · rename_i flushed error failed
              rw [failed] at kept
              refine ⟨⟨true, ?_, nofun⟩, fun graceful impossible => by cases impossible⟩
              rw [kept]
              exact follows
            · rename_i flushed written
              rw [written] at kept
              have rest := ih flushed
              obtain ⟨goesOn, further, failed⟩ := rest.follows
              rw [kept] at further
              exact ⟨⟨goesOn, follows.append further, failed⟩, rest.returned⟩
      · rw [result]
        dsimp only
        split
        · refine ⟨⟨true, .done, nofun⟩, fun graceful same => ?_⟩
          cases same
          rfl
        · exact ⟨⟨true, .done, nofun⟩, fun graceful impossible => by cases impossible⟩
      · rw [result]
        refine ⟨⟨true, .done, nofun⟩, fun graceful same => ?_⟩
        cases same
        rfl

end Session

/-! ## The account of a run -/

section Account

variable {state last : Publishing} {ledger : Ledger} {transcript : List (Received × Session)}
  {goesOn : Bool}

/-- The messages of a transcript. -/
def messages (transcript : List (Received × Session)) : List Received := transcript.map Prod.fst

/-- What holds after a handled message, given the ledger before the transcript. -/
structure Accounted (state : Publishing) (ledger : Ledger) (goesOn : Bool)
    (before : List (Received × Session)) (received : Received) (session : Session)
    (after : List (Received × Session)) : Prop where
  sent : session.sent = state.sent ++ ledger.delivered (messages before ++ [received])
  identified : session.publishing.Identified
  stops : ∀ data, received.kind = .media data →
    (ledger.after (messages before)).delivers received = none → after = [] ∧ goesOn = false

theorem Follows.accounted (follows : Follows state transcript last goesOn)
    (refines : Refines state ledger) (identified : state.Identified)
    {before after : List (Received × Session)} {received : Received} {session : Session}
    (split : transcript = before ++ (received, session) :: after) :
    Accounted state ledger goesOn before received session after := by
  induction follows generalizing ledger before with
  | done => cases before <;> cases split
  | @stopped state first reached effect =>
      cases before with
      | nil =>
          cases split
          refine ⟨?_, effect.identified identified, fun data media undelivered => ⟨rfl, rfl⟩⟩
          exact (effect.sent_eq refines).trans (by rw [messages, List.map_nil, List.nil_append,
            Ledger.delivered, Ledger.delivered, List.append_nil])
      | cons entry before => cases before <;> cases split
  | @handled state last first reached transcript goesOn effect rest ih =>
      cases before with
      | nil =>
          cases split
          refine ⟨?_, effect.identified identified, fun data media undelivered => ?_⟩
          · exact (effect.sent_eq refines).trans (by rw [messages, List.map_nil, List.nil_append,
              Ledger.delivered, Ledger.delivered, List.append_nil])
          · cases effect.stops refines media undelivered
      | cons entry before =>
          cases split
          have later := ih (effect.refines refines) (effect.identified identified) rfl
          refine ⟨?_, later.identified, later.stops⟩
          have items : ledger.delivered (messages ((first, reached) :: before) ++ [received]) =
              (ledger.delivers first).toList ++
                (ledger.next first).delivered (messages before ++ [received]) := rfl
          have sent : reached.publishing.sent = state.sent ++ (ledger.delivers first).toList :=
            effect.sent_eq refines
          rw [later.sent, items, sent, List.append_assoc]

/-- The state at the end of a transcript. -/
theorem Follows.final (follows : Follows state transcript last goesOn)
    (refines : Refines state ledger) (identified : state.Identified) :
    last.sent = state.sent ++ ledger.delivered (messages transcript) ∧ last.Identified ∧
      (goesOn = true → Refines last (ledger.after (messages transcript))) := by
  induction follows generalizing ledger with
  | done => exact ⟨(List.append_nil _).symm, identified, fun _ => refines⟩
  | stopped effect =>
      refine ⟨?_, effect.identified identified, nofun⟩
      exact (effect.sent_eq refines).trans (by rw [messages, List.map_cons, List.map_nil,
        Ledger.delivered, Ledger.delivered, List.append_nil])
  | handled effect rest ih =>
      obtain ⟨sent, lastIdentified, lastRefines⟩ :=
        ih (effect.refines refines) (effect.identified identified)
      refine ⟨?_, lastIdentified, lastRefines⟩
      rw [sent, effect.sent_eq refines, List.append_assoc]
      rfl

end Account

/-! ## Undeleted publishes -/

/-- No publish is accepted on one stream while another one is undeleted. -/
def Solitary (received : List Received) : Prop :=
  ∀ before publish after, received = before ++ publish :: after →
    (Ledger.start.after before).publishes publish = true →
      ∀ streamId ∈ (Ledger.start.after before).undeleted, streamId = publish.streamId

/-- The target is the only undeleted publish. -/
def Ledger.Solo (ledger : Ledger) : Prop :=
  ∀ streamId, streamId ∈ ledger.undeleted ↔ ledger.target = some streamId

theorem Ledger.solo_next {ledger : Ledger} {received : Received} (solo : ledger.Solo)
    (alone : ledger.publishes received = true →
      ∀ streamId ∈ ledger.undeleted, streamId = received.streamId) :
    (ledger.next received).Solo := by
  intro streamId
  unfold Ledger.next
  cases received.kind with
  | connect hasApp => exact solo streamId
  | publish named =>
      dsimp only
      split
      · rename_i taken
        rw [List.mem_cons, Option.some.injEq]
        constructor
        · rintro (rfl | member)
          · rfl
          · exact (alone taken streamId member).symm
        · rintro rfl
          exact .inl rfl
      · exact solo streamId
  | delete deleted =>
      dsimp only
      rw [List.mem_filter, solo streamId]
      by_cases current : ledger.target = some deleted
      · rw [if_pos current, current, Option.some.injEq]
        constructor
        · rintro ⟨rfl, other⟩
          rw [decide_eq_true_iff] at other
          exact absurd rfl other
        · intro impossible
          cases impossible
      · rw [if_neg current]
        constructor
        · exact And.left
        · intro same
          refine ⟨same, ?_⟩
          rw [decide_eq_true_iff]
          rintro rfl
          exact current same
  | media data => exact solo streamId
  | other => exact solo streamId

theorem Ledger.solo_after {received : List Received} (solitary : Solitary received) :
    (Ledger.start.after received).Solo := by
  induction received using List.reverseRecOn with
  | nil => exact fun streamId => ⟨nofun, nofun⟩
  | append_singleton before publish ih =>
      have earlier : Solitary before := by
        rintro first middle rest rfl
        exact solitary first middle (rest ++ [publish]) (by simp)
      have alone := solitary before publish [] rfl
      rw [Ledger.after, List.foldl_append]
      exact Ledger.solo_next (ih earlier) alone

theorem Ledger.Solo.undeleted_eq_nil_iff {ledger : Ledger} (solo : ledger.Solo) :
    ledger.undeleted = [] ↔ ledger.target = none := by
  constructor
  · intro empty
    cases same : ledger.target with
    | none => rfl
    | some streamId =>
        have member := (solo streamId).mpr same
        rw [empty] at member
        cases member
  · intro none
    refine List.eq_nil_iff_forall_not_mem.mpr fun streamId member => ?_
    rw [(solo streamId).mp member] at none
    cases none

namespace Session

variable (checks : OverflowChecks) (shortRead : ShortRead)

theorem ready_refines (readBuf writeBuf : Bytes) (skipRead : Bool) :
    Refines (ready readBuf writeBuf skipRead).publishing Ledger.start :=
  ⟨rfl, rfl, nofun⟩

theorem ready_identified (readBuf writeBuf : Bytes) (skipRead : Bool) :
    (ready readBuf writeBuf skipRead).publishing.Identified := nofun

/-- In every run of a session after the handshake: after each message the items
sent are those of the media messages for the target of the ledger, in order; a
session that publishes has an application name and an id; any other media message
is the last one and ends the session with an error.  The returned flag says that
no accepted publish is undeleted if no two of them overlap on different
streams. -/
theorem run_publishes (readBuf writeBuf : Bytes) (skipRead : Bool) (turns : List Turn) :
    let run := runReady checks shortRead (ready readBuf writeBuf skipRead) turns
    (∀ before received session after,
      run.transcript = before ++ (received, session) :: after →
        session.sent = Ledger.start.delivered (messages before ++ [received]) ∧
        (session.isPublishing = true → session.appName.isSome = true ∧ session.uid.isSome = true) ∧
        (∀ data, received.kind = .media data →
          (Ledger.start.after (messages before)).delivers received = none →
            after = [] ∧ ∃ error, run.result = some (.error error))) ∧
    run.session.sent = Ledger.start.delivered (messages run.transcript) ∧
    (run.session.isPublishing = true →
      run.session.appName.isSome = true ∧ run.session.uid.isSome = true) ∧
    (Solitary (messages run.transcript) → ∀ graceful, run.result = some (.ok graceful) →
      (graceful = true ↔ (Ledger.start.after (messages run.transcript)).undeleted = [])) := by
  intro run
  have spec := runReady_spec checks shortRead (ready readBuf writeBuf skipRead) turns
  have refines := ready_refines readBuf writeBuf skipRead
  have identified := ready_identified readBuf writeBuf skipRead
  obtain ⟨goesOn, follows, failed⟩ := spec.follows
  obtain ⟨sent, lastIdentified, lastRefines⟩ := follows.final refines identified
  refine ⟨?_, sent, lastIdentified, ?_⟩
  · intro before received session after split
    have entry := follows.accounted refines identified split
    refine ⟨entry.sent, entry.identified, fun data media undelivered => ?_⟩
    obtain ⟨ended, stopped⟩ := entry.stops data media undelivered
    exact ⟨ended, failed stopped⟩
  · intro solitary graceful returned
    have went : goesOn = true := by
      cases goesOn with
      | true => rfl
      | false =>
          obtain ⟨error, other⟩ := failed rfl
          rw [returned] at other
          cases other
    have agrees := (lastRefines went).publishing
    rw [(Ledger.solo_after solitary).undeleted_eq_nil_iff, spec.returned graceful returned]
    change (!run.session.publishing.isPublishing) = true ↔ _
    rw [agrees, Bool.not_eq_true', Option.isSome_eq_false_iff, Option.isNone_iff_eq_none]

/-! ## Overlapping publishes -/

/-- A command on a message stream, as one chunk. -/
def commandBytes (streamId : UInt8) (payload : Bytes) : Bytes :=
  [0x03, 0, 0, 0, 0, 0, UInt8.ofNat payload.length, 0x14, streamId, 0, 0, 0] ++ payload

/-- The number zero as a transaction id. -/
def transactionZero : Bytes := [0x00, 0, 0, 0, 0, 0, 0, 0, 0]

/-- The commands connect, publish on stream one, publish on stream two and delete
stream two. -/
def overlapping : Bytes :=
  commandBytes 0 ([0x02, 0, 7, 0x63, 0x6f, 0x6e, 0x6e, 0x65, 0x63, 0x74] ++ transactionZero ++
    [0x03, 0, 3, 0x61, 0x70, 0x70, 0x02, 0, 1, 0x61, 0, 0, 9]) ++
  commandBytes 1 ([0x02, 0, 7, 0x70, 0x75, 0x62, 0x6c, 0x69, 0x73, 0x68] ++ transactionZero ++
    [0x05, 0x02, 0, 1, 0x78]) ++
  commandBytes 2 ([0x02, 0, 7, 0x70, 0x75, 0x62, 0x6c, 0x69, 0x73, 0x68] ++ transactionZero ++
    [0x05, 0x02, 0, 1, 0x79]) ++
  commandBytes 0 ([0x02, 0, 12, 0x64, 0x65, 0x6c, 0x65, 0x74, 0x65, 0x53, 0x74, 0x72, 0x65, 0x61,
    0x6d] ++ transactionZero ++ [0x05, 0x00, 0x40, 0, 0, 0, 0, 0, 0, 0])

/-- The commands arrive, both publishes are accepted, and the client closes. -/
def overlappingTurns : List Turn :=
  [⟨.ok overlapping, fun _ => ⟨some 0, true⟩, .ok ()⟩, ⟨.ok [], fun _ => ⟨none, false⟩, .ok ()⟩]

def overlappingRun : Progress (Option (Except SessionError Bool)) :=
  runReady .on .stays (ready [] [] false) overlappingTurns

def isGraceful : Option (Except SessionError Bool) → Bool
  | some (.ok graceful) => graceful
  | _ => false

theorem eq_of_isGraceful {result : Option (Except SessionError Bool)}
    (graceful : isGraceful result = true) : result = some (.ok true) := by
  unfold isGraceful at graceful
  split at graceful
  · rw [graceful]
  · cases graceful

/-- The session ends as graceful while the publish on stream one is undeleted. -/
theorem overlappingRun_graceful :
    ¬ ∀ graceful, overlappingRun.result = some (.ok graceful) →
      (graceful = true ↔
        (Ledger.start.after (messages overlappingRun.transcript)).undeleted = []) := by
  intro exact
  have returned : overlappingRun.result = some (.ok true) := eq_of_isGraceful (by decide +kernel)
  have empty := (exact true returned).mp rfl
  have left : (Ledger.start.after (messages overlappingRun.transcript)).undeleted = [1] := by
    decide +kernel
  rw [left] at empty
  cases empty

end Session

end ScuffleVideo.Rtmp.Server
