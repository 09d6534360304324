import Mathlib.Data.List.Basic
import ScuffleVideo.Transmuxer.Runs

/-!
# The timeline of a run

The numbers that a player reads back from the emitted segments: each segment
carries its position among all segments, and its decode time is the sum of the
sample durations written earlier for its track.  Two transmuxers that differ only
in unsupported tags hand out the same results from then on.
-/

namespace ScuffleVideo.Transmux

open Wire Wire.Reader Flv Mp4

variable {env : Environment}

/-! ## What the bytes say -/

namespace MediaSegment

/-- The movie fragment at the start of a segment. -/
def fragment (checks : OverflowChecks) (segment : MediaSegment) : Option (Moof DynBox) :=
  match DynBox.demux checks segment.data 0 with
  | .ok (.moof moof, _) => some moof
  | _ => none

/-- The sample durations written in a segment. -/
def duration (checks : OverflowChecks) (segment : MediaSegment) : Nat :=
  match segment.fragment checks with
  | some moof => (moof.traf.map fun traf =>
      (traf.effectiveSamples.map fun sample => (sample.duration.getD 0).toNat).sum).sum
  | none => 0

end MediaSegment

/-- The sample durations written for one track. -/
def writtenDuration (checks : OverflowChecks) (kind : MediaType) (segments : List MediaSegment) :
    Nat :=
  ((segments.filter fun segment => segment.ty = kind).map (MediaSegment.duration checks)).sum

/-- The place of a segment behind the earlier ones, as its own bytes give it. -/
structure OnTimeline (checks : OverflowChecks) (earlier : List MediaSegment)
    (segment : MediaSegment) (moof : Moof DynBox) (traf : Traf DynBox) (tfdt : Tfdt) : Prop where
  parsed : segment.fragment checks = some moof
  numbered : moof.mfhd.sequenceNumber.toNat = earlier.length + 1
  oneTraf : moof.traf = [traf]
  track : traf.tfhd.trackId = trackId segment.ty
  timed : traf.tfdt = some tfdt
  stamped : tfdt.baseMediaDecodeTime = segment.timestamp
  summed : segment.timestamp.toNat = writtenDuration checks segment.ty earlier

section Written

variable (checks : OverflowChecks)

theorem writtenDuration_append (kind : MediaType) (first second : List MediaSegment) :
    writtenDuration checks kind (first ++ second) =
      writtenDuration checks kind first + writtenDuration checks kind second := by
  simp [writtenDuration]

theorem writtenDuration_single (kind : MediaType) (segment : MediaSegment) :
    writtenDuration checks kind [segment] =
      if segment.ty = kind then segment.duration checks else 0 := by
  by_cases same : segment.ty = kind
  · simp [writtenDuration, same]
  · simp [writtenDuration, same]

variable {counters : Counters} {sample : Sample} {fragment : Fragment}

theorem fragment_segment :
    (counters.segment sample fragment).fragment checks =
      some (fragment.moof fragment.filledOffset) := by
  have read : DynBox.demux checks (counters.segment sample fragment).data 0 =
      .ok (.moof (fragment.moof fragment.filledOffset), 0 + fragment.bytes.length) := by
    have front := fragment.bytes_reads checks [] (frame Mdat.name sample.mdatData)
    rw [List.nil_append, List.length_nil] at front
    exact front
  unfold MediaSegment.fragment
  rw [read]

theorem duration_segment (describes : counters.Describes sample fragment) :
    (counters.segment sample fragment).duration checks = sample.totalDuration.toNat := by
  unfold MediaSegment.duration
  rw [fragment_segment, ← describes.duration]
  change ([(fragment.traf fragment.filledOffset)].map _).sum = _
  rw [List.map_singleton, List.sum_singleton, fragment.effectiveSamples_traf]
  rfl

end Written

/-! ## The counters of a run -/

/-- The counters behind some segments, both numbers modulo their width. -/
structure Counters.Behind (checks : OverflowChecks) (counters : Counters)
    (earlier : List MediaSegment) : Prop where
  sequenceNumber : counters.sequenceNumber = UInt32.ofNat (earlier.length + 1)
  durations : ∀ kind, counters.trackDuration kind =
    UInt64.ofNat (writtenDuration checks kind earlier)

namespace Counters.Behind

variable {checks : OverflowChecks} {counters : Counters} {earlier : List MediaSegment}

theorem initial (checks : OverflowChecks) : Counters.initial.Behind checks [] where
  sequenceNumber := rfl
  durations kind := by cases kind <;> rfl

theorem advance (behind : counters.Behind checks earlier) {sample : Sample} {fragment : Fragment}
    (describes : counters.Describes sample fragment) (timestampMs : UInt32) :
    (counters.advance timestampMs sample).Behind checks
      (earlier ++ [counters.segment sample fragment]) where
  sequenceNumber := by
    have counted : (counters.advance timestampMs sample).sequenceNumber =
        counters.sequenceNumber + 1 := by
      unfold Counters.advance
      split <;> rfl
    rw [counted, behind.sequenceNumber, List.length_append, List.length_singleton]
    exact (UInt32.ofNat_add (earlier.length + 1) 1).symm
  durations kind := by
    have summed : (counters.advance timestampMs sample).trackDuration kind =
        if sample.ty = kind then counters.trackDuration kind + sample.totalDuration.toUInt64
        else counters.trackDuration kind := by
      unfold Counters.advance Sample.ty
      cases sample.isAudio <;> cases kind <;> rfl
    rw [summed, behind.durations kind, writtenDuration_append, writtenDuration_single,
      duration_segment checks describes]
    change _ = UInt64.ofNat (_ + if sample.ty = kind then _ else 0)
    split
    · rw [UInt64.ofNat_add, ← UInt32.toNat_toUInt64 sample.totalDuration, UInt64.ofNat_toNat]
    · rfl

end Counters.Behind

/-- Each segment of a timeline is written with the counters behind those before
it. -/
theorem Timeline.behind {checks : OverflowChecks} {framerate : Float} {counters last : Counters}
    {tags : List (FlvTag env.toCodecs)} {segments : List MediaSegment}
    (timeline : Timeline framerate counters tags segments last) {earlier : List MediaSegment}
    (behind : counters.Behind checks earlier) {before after : List MediaSegment}
    {segment : MediaSegment} (split : segments = before ++ segment :: after) :
    ∃ current sample fragment, Counters.Behind checks current (earlier ++ before) ∧
      current.Describes sample fragment ∧ segment = current.segment sample fragment := by
  induction timeline generalizing earlier before with
  | nil counters =>
      have empty := (List.append_eq_nil_iff.mp split.symm).2
      cases empty
  | @cons counters last tag sample fragment tags segments found describes more ih =>
      cases before with
      | nil =>
          rw [List.append_nil]
          exact ⟨counters, sample, fragment, behind, describes, (List.cons.inj split).1.symm⟩
      | cons first before =>
          obtain ⟨same, rest⟩ := List.cons.inj split
          have later := ih (behind.advance describes tag.timestampMs) rest
          rw [same, List.append_assoc] at later
          exact later

/-- No segment of a timeline lasts longer than 32 bits can tell. -/
theorem Timeline.writtenDuration_le (checks : OverflowChecks) {framerate : Float}
    {counters last : Counters} {tags : List (FlvTag env.toCodecs)} {segments : List MediaSegment}
    (timeline : Timeline framerate counters tags segments last) (kind : MediaType) :
    writtenDuration checks kind segments ≤ segments.length * (2 ^ 32 - 1) := by
  induction timeline with
  | nil counters => exact Nat.zero_le _
  | @cons counters last tag sample fragment tags segments found describes more ih =>
      have bound := sample.totalDuration.toNat_lt
      have first : writtenDuration checks kind [counters.segment sample fragment] ≤ 2 ^ 32 - 1 := by
        rw [writtenDuration_single, duration_segment checks describes]
        split <;> omega
      have both := writtenDuration_append checks kind [counters.segment sample fragment] segments
      rw [List.singleton_append] at both
      rw [both, List.length_cons, Nat.succ_mul]
      omega

theorem writtenDuration_prefix (checks : OverflowChecks) (kind : MediaType)
    (first second : List MediaSegment) :
    writtenDuration checks kind first ≤ writtenDuration checks kind (first ++ second) := by
  rw [writtenDuration_append]
  exact Nat.le_add_right _ _

/-- Below the width of the sequence number nothing wraps. -/
theorem Timeline.onTimeline (checks : OverflowChecks) {framerate : Float} {last : Counters}
    {tags : List (FlvTag env.toCodecs)} {segments : List MediaSegment}
    (timeline : Timeline framerate .initial tags segments last)
    (few : segments.length < 2 ^ 32 - 1) {earlier later : List MediaSegment}
    {segment : MediaSegment} (split : segments = earlier ++ segment :: later) :
    ∃ moof traf tfdt, OnTimeline checks earlier segment moof traf tfdt := by
  obtain ⟨current, sample, fragment, behind, describes, same⟩ :=
    timeline.behind (Counters.Behind.initial checks) split
  rw [List.nil_append] at behind
  have position : earlier.length < segments.length := by
    rw [split, List.length_append, List.length_cons]
    omega
  have bound : writtenDuration checks sample.ty earlier < 2 ^ 64 := by
    have total := timeline.writtenDuration_le checks sample.ty
    have part := writtenDuration_prefix checks sample.ty earlier (segment :: later)
    rw [← split] at part
    omega
  subst same
  refine ⟨fragment.moof fragment.filledOffset, fragment.traf fragment.filledOffset, fragment.tfdt,
    ?_⟩
  exact {
    parsed := fragment_segment checks
    numbered := by
      change fragment.sequenceNumber.toNat = _
      rw [describes.sequenceNumber, behind.sequenceNumber]
      exact UInt32.toNat_ofNat_of_lt' (show earlier.length + 1 < 2 ^ 32 by omega)
    oneTraf := rfl
    track := describes.trackId
    timed := rfl
    stamped := describes.baseMediaDecodeTime
    summed := by
      change (current.trackDuration sample.ty).toNat = writtenDuration checks sample.ty earlier
      rw [behind.durations]
      exact UInt64.toNat_ofNat_of_lt' bound }

/-! ## Unsupported tags -/

theorem findTagsFrom_complete {found : Tags env} (complete : found.complete = true)
    (tags : List (FlvTag env.toCodecs)) : findTagsFrom found tags = found := by
  cases tags with
  | nil => rfl
  | cons tag tags => rw [findTagsFrom, if_pos complete]

theorem findTagsFrom_append (found : Tags env) (first second : List (FlvTag env.toCodecs)) :
    findTagsFrom found (first ++ second) = findTagsFrom (findTagsFrom found first) second := by
  induction first generalizing found with
  | nil => rfl
  | cons tag first ih =>
      rw [List.cons_append, findTagsFrom, findTagsFrom]
      split
      · rename_i complete
        exact (findTagsFrom_complete complete second).symm
      · exact ih (found.add tag)

/-- A tag that the search for headers passes over. -/
def NoHeader (tag : FlvTag env.toCodecs) : Prop := ∀ found : Tags env, found.add tag = found

theorem findTagsFrom_skip (found : Tags env) (before after : List (FlvTag env.toCodecs))
    {tag : FlvTag env.toCodecs} (noHeader : NoHeader tag) :
    findTagsFrom found (before ++ tag :: after) = findTagsFrom found (before ++ after) := by
  rw [findTagsFrom_append, findTagsFrom_append, findTagsFrom, noHeader]
  split
  · rename_i complete
    exact (findTagsFrom_complete complete after).symm
  · rfl

/-- Two transmuxers that differ only in tags that neither a segment nor the search
for headers uses. -/
structure Agree (first second : Transmuxer env) : Prop where
  settings : first.settings = second.settings
  counters : first.counters = second.counters
  supported : supportedTags first.tags = supportedTags second.tags
  headers : first.settings = none → first.findTags = second.findTags

namespace Agree

variable {first second : Transmuxer env}

theorem refl (transmuxer : Transmuxer env) : Agree transmuxer transmuxer :=
  ⟨rfl, rfl, rfl, fun _ => rfl⟩

theorem feed (agree : Agree first second) (tags : List (FlvTag env.toCodecs)) :
    Agree { first with tags := first.tags ++ tags }
      { second with tags := second.tags ++ tags } where
  settings := agree.settings
  counters := agree.counters
  supported := by
    rw [supportedTags_append, supportedTags_append, agree.supported]
  headers unset := by
    have headers : findTagsFrom _ first.tags = findTagsFrom _ second.tags := agree.headers unset
    change findTagsFrom _ (first.tags ++ tags) = findTagsFrom _ (second.tags ++ tags)
    rw [findTagsFrom_append, findTagsFrom_append, headers]

/-- Both skip to the same tag, if there is one. -/
theorem muxTags (agree : Agree first second) (ready : first.settings ≠ none) (framerate : Float) :
    (first.muxTags framerate first.tags).1 = (second.muxTags framerate second.tags).1 ∧
      Agree (first.muxTags framerate first.tags).2 (second.muxTags framerate second.tags).2 := by
  have supported := agree.supported
  rcases muxTags_cases framerate first first.tags with
    ⟨unsupported, exhausted⟩ | ⟨skipped, tag, rest, sample, split, unsupported, found, written⟩
  · rcases muxTags_cases framerate second second.tags with
      ⟨unsupported', exhausted'⟩ |
        ⟨skipped', tag', rest', sample', split', unsupported', found', written'⟩
    · rw [exhausted, exhausted']
      exact ⟨rfl, agree.settings, agree.counters, rfl, fun unset => (ready unset).elim⟩
    · rw [supportedTags_eq_nil unsupported, split', supportedTags_split unsupported' found']
        at supported
      cases supported
  · rcases muxTags_cases framerate second second.tags with
      ⟨unsupported', exhausted'⟩ |
        ⟨skipped', tag', rest', sample', split', unsupported', found', written'⟩
    · rw [supportedTags_eq_nil unsupported', split, supportedTags_split unsupported found]
        at supported
      cases supported
    · rw [split, split', supportedTags_split unsupported found,
        supportedTags_split unsupported' found'] at supported
      obtain ⟨sameTag, sameRest⟩ := List.cons.inj supported
      have sameSample : sample = sample' := by
        rw [← sameTag, show second.lastVideoTimestamp = first.lastVideoTimestamp from
          (congrArg Counters.lastVideoTimestamp agree.counters).symm, found] at found'
        exact Option.some.inj found'
      have sound := sampleOf_sound found
      obtain ⟨fragment, describes⟩ := first.counters.exists_fragment sound
      have describes' := describes
      rw [agree.counters] at describes'
      have wrote := Transmuxer.writeSegment_taken sound describes rest tag.timestampMs
      have wrote' := Transmuxer.writeSegment_taken sound describes' rest' tag.timestampMs
      rw [written, written', ← sameTag, ← sameSample, wrote, wrote', agree.counters]
      exact ⟨rfl, agree.settings, rfl, sameRest, fun unset => (ready unset).elim⟩

theorem mux (agree : Agree first second) :
    (Answer.muxed first.mux.1).result = (Answer.muxed second.mux.1).result ∧
      Agree first.mux.2 second.mux.2 := by
  cases known : first.settings with
  | none =>
      have searched : first.initSequence = second.initSequence := by
        unfold Transmuxer.initSequence
        rw [agree.headers known]
      unfold Transmuxer.mux
      rw [← agree.settings, known, ← searched]
      dsimp only
      cases first.initSequence with
      | error error => exact ⟨rfl, agree⟩
      | ok found =>
          cases found with
          | none =>
              dsimp only
              constructor
              · split <;> split <;> rfl
              · split <;> split <;> exact agree
          | some built =>
              refine ⟨rfl, rfl, agree.counters, agree.supported, fun unset => ?_⟩
              cases unset
  | some settings =>
      have ready : first.settings ≠ none := by
        rw [known]
        exact Option.some_ne_none settings
      obtain ⟨same, next⟩ := agree.muxTags ready settings.1.framerate
      rw [Transmuxer.mux_ready known, Transmuxer.mux_ready (agree.settings.symm.trans known)]
      exact ⟨congrArg (fun result => (Answer.muxed result).result) same, next⟩

theorem step (agree : Agree first second) (call : Call env) :
    (first.step call).1.result = (second.step call).1.result ∧
      Agree (first.step call).2 (second.step call).2 := by
  cases call with
  | addTag tag => exact ⟨rfl, agree.feed [tag]⟩
  | demux data => exact ⟨rfl, agree.feed _⟩
  | mux => exact agree.mux

/-- Transmuxers that agree hand out the same results in every run. -/
theorem run (agree : Agree first second) (calls : List (Call env)) :
    results (first.run calls).1 = results (second.run calls).1 :=
  Reactive.run_related Answer.result Agree.step agree calls

/-- A call that returns nothing at most drops unsupported tags. -/
theorem of_no_result {transmuxer : Transmuxer env}
    (nothing : (Answer.muxed transmuxer.mux.1).result = none) :
    Agree transmuxer.mux.2 transmuxer := by
  cases known : transmuxer.settings with
  | none =>
      unfold Transmuxer.mux at nothing ⊢
      rw [known] at nothing ⊢
      cases searched : transmuxer.initSequence with
      | error error => exact refl transmuxer
      | ok found =>
          cases found with
          | none =>
              dsimp only
              split <;> exact refl transmuxer
          | some built =>
              rw [searched] at nothing
              cases nothing
  | some settings =>
      obtain ⟨unsupported, emptied⟩ := mux_no_result known nothing
      rw [emptied]
      refine ⟨rfl, rfl, unsupported.symm, fun unset => ?_⟩
      rw [known] at unset
      cases unset

/-- An unsupported tag may be left out of the queue, unless it is a header that is
still looked for. -/
theorem of_skipped (transmuxer : Transmuxer env) {before after : List (FlvTag env.toCodecs)}
    {tag : FlvTag env.toCodecs} (unsupported : media tag = none)
    (unused : transmuxer.settings ≠ none ∨ NoHeader tag) :
    Agree { transmuxer with tags := before ++ tag :: after }
      { transmuxer with tags := before ++ after } where
  settings := rfl
  counters := rfl
  supported := by
    have dropped : supportedTags (tag :: after) = supportedTags after :=
      List.filter_cons_of_neg (by rw [unsupported]; exact Bool.false_ne_true)
    rw [supportedTags_append, supportedTags_append, dropped]
  headers unset := by
    rcases unused with ready | noHeader
    · exact (ready unset).elim
    · exact findTagsFrom_skip _ before after noHeader

end Agree

/-! ## Every run -/

/-- Equal counters, and equal results in every run from there. -/
def SameValues (first second : Transmuxer env) : Prop :=
  first.counters = second.counters ∧
    ∀ calls, results (first.run calls).1 = results (second.run calls).1

theorem Agree.sameValues {first second : Transmuxer env} (agree : Agree first second) :
    SameValues first second :=
  ⟨agree.counters, agree.run⟩

/-- Every segment of every run stands on the timeline of those before it.  Calls to
`mux` that return nothing change no later value, and neither do unsupported tags,
wherever they stand in the queue, unless they are headers that are still looked
for. -/
theorem run_onTimeline (checks : OverflowChecks) (calls : List (Call env))
    (few : (segments (Transmuxer.new.run calls).1).length < 2 ^ 32 - 1) :
    (∀ earlier segment later,
      segments (Transmuxer.new.run calls).1 = earlier ++ segment :: later →
        ∃ moof traf tfdt, OnTimeline checks earlier segment moof traf tfdt) ∧
      (∀ transmuxer : Transmuxer env, (Answer.muxed transmuxer.mux.1).result = none →
        SameValues transmuxer.mux.2 transmuxer) ∧
      ∀ (transmuxer : Transmuxer env) (before after : List (FlvTag env.toCodecs))
        (tag : FlvTag env.toCodecs), media tag = none →
          transmuxer.settings ≠ none ∨ NoHeader tag →
            SameValues { transmuxer with tags := before ++ tag :: after }
              { transmuxer with tags := before ++ after } := by
  refine ⟨?_, ?_, ?_⟩
  · intro earlier segment later split
    obtain ⟨framerate, emitted, rest, queued, timeline⟩ :=
      (Progress.of_calls calls).segments_timeline
    exact timeline.onTimeline checks few split
  · intro transmuxer nothing
    exact (Agree.of_no_result nothing).sameValues
  · intro transmuxer before after tag unsupported unused
    exact (Agree.of_skipped transmuxer unsupported unused).sameValues

/-! Two sequence headers, then two raw AAC packets around an unknown tag. -/

def avcHeaderTag : FlvTag plainEnvironment.toCodecs :=
  ⟨0, 0, .video ⟨.keyframe, .avc (.sequenceHeader ())⟩⟩

def aacHeaderTag : FlvTag plainEnvironment.toCodecs :=
  ⟨0, 0, .audio ⟨⟨3⟩, ⟨1⟩, ⟨1⟩, .aac (.sequenceHeader [18, 16])⟩⟩

def unknownTag : FlvTag plainEnvironment.toCodecs := ⟨0, 0, .unknown ⟨15⟩ [1]⟩

def shortRun : List (Call plainEnvironment) :=
  [.mux, .addTag avcHeaderTag, .addTag (rawAacTag 0 [33, 16, 4]), .addTag aacHeaderTag, .mux,
    .mux, .mux, .addTag unknownTag, .addTag (rawAacTag 23 [33, 16, 5]), .mux]

theorem shortRun_onTimeline :
    (∃ first second moof traf tfdt,
      segments (Transmuxer.new.run shortRun).1 = [first, second] ∧
        OnTimeline .on [first] second moof traf tfdt) ∧
      SameValues (Transmuxer.new : Transmuxer plainEnvironment).mux.2 Transmuxer.new ∧
      SameValues { readyTransmuxer with tags := [unknownTag, rawAacTag 70 [33, 16, 4]] }
        readyTransmuxer := by
  have two : (segments (Transmuxer.new.run shortRun).1).length = 2 := by decide +kernel
  have results := run_onTimeline .on shortRun (by rw [two]; decide)
  obtain ⟨first, second, split⟩ := List.length_eq_two.mp two
  obtain ⟨moof, traf, tfdt, placed⟩ := results.1 [first] second [] split
  refine ⟨⟨first, second, moof, traf, tfdt, split, placed⟩, results.2.1 Transmuxer.new rfl, ?_⟩
  exact results.2.2 readyTransmuxer [] [rawAacTag 70 [33, 16, 4]] unknownTag rfl
    (Or.inl (Option.some_ne_none _))

end ScuffleVideo.Transmux
