import ScuffleVideo.Transmuxer.MediaSegments
import ScuffleVideo.Wire.Reactive

/-!
# Runs of the transmuxer

A run is any sequence of calls that feed tags, feed raw data or ask for the next
result.  Against it stands the timeline: the supported tags in the order they
were fed, each turned into a segment by the counters that the one before left.
Once the settings are known, what was emitted is the timeline of a first part of
those tags, and the queue holds the rest.
-/

namespace ScuffleVideo.Transmux

open Wire Wire.Reader Flv Mp4

variable {env : Environment}

/-! ## Calls and answers -/

inductive Call (env : Environment) where
  | addTag (tag : FlvTag env.toCodecs)
  | demux (data : Bytes)
  | mux

/-- The tags that a call feeds. -/
def Call.fed : Call env → List (FlvTag env.toCodecs)
  | .addTag tag => [tag]
  | .demux data => (demuxTags env data (data.length + 1) 0).1
  | .mux => []

inductive Answer (env : Environment) where
  | fed (result : Except TransmuxError Unit)
  | muxed (result : Except TransmuxError (Option (TransmuxResult env)))

namespace Answer

/-- The result of a call to `mux` that returned one. -/
def result : Answer env → Option (TransmuxResult env)
  | .muxed (.ok result) => result
  | _ => none

end Answer

def TransmuxResult.segment : TransmuxResult env → Option MediaSegment
  | .initSegment _ _ _ => none
  | .mediaSegment segment => some segment

namespace Transmuxer

def step (transmuxer : Transmuxer env) : Call env → Answer env × Transmuxer env
  | .addTag tag => (.fed (.ok ()), transmuxer.addTag tag)
  | .demux data => (.fed (transmuxer.demux data).1, (transmuxer.demux data).2)
  | .mux => (.muxed transmuxer.mux.1, transmuxer.mux.2)

/-- The answers of a sequence of calls and the state they lead to. -/
def run (transmuxer : Transmuxer env) (calls : List (Call env)) :
    List (Answer env) × Transmuxer env :=
  Reactive.run step transmuxer calls

end Transmuxer

/-- The tags fed by a sequence of calls. -/
def fedTags (calls : List (Call env)) : List (FlvTag env.toCodecs) := calls.flatMap Call.fed

/-- The supported tags fed by a sequence of calls. -/
def supportedTags (tags : List (FlvTag env.toCodecs)) : List (FlvTag env.toCodecs) :=
  tags.filter fun tag => (media tag).isSome

/-- The results among the answers, without the calls that returned nothing. -/
def results (answers : List (Answer env)) : List (TransmuxResult env) :=
  answers.filterMap Answer.result

/-- The media segments among the answers. -/
def segments (answers : List (Answer env)) : List MediaSegment :=
  (results answers).filterMap TransmuxResult.segment

/-! ## The timeline -/

/-- The counters before the first segment. -/
def Counters.initial : Counters := ⟨0, 0, 1, 0⟩

/-- Supported tags, the segments made of them, and the counters they lead to. -/
inductive Timeline (framerate : Float) :
    Counters → List (FlvTag env.toCodecs) → List MediaSegment → Counters → Prop
  | nil (counters : Counters) : Timeline framerate counters [] [] counters
  | cons {counters last : Counters} {tag : FlvTag env.toCodecs} {sample : Sample}
      {fragment : Fragment} {tags : List (FlvTag env.toCodecs)} {segments : List MediaSegment}
      (found : sampleOf framerate counters.lastVideoTimestamp tag = some sample)
      (describes : counters.Describes sample fragment)
      (more : Timeline framerate (counters.advance tag.timestampMs sample) tags segments last) :
      Timeline framerate counters (tag :: tags) (counters.segment sample fragment :: segments) last

namespace Timeline

variable {framerate : Float}

theorem snoc {counters middle : Counters} {tags : List (FlvTag env.toCodecs)}
    {segments : List MediaSegment} (timeline : Timeline framerate counters tags segments middle)
    {tag : FlvTag env.toCodecs} {sample : Sample} {fragment : Fragment}
    (found : sampleOf framerate middle.lastVideoTimestamp tag = some sample)
    (describes : middle.Describes sample fragment) :
    Timeline framerate counters (tags ++ [tag]) (segments ++ [middle.segment sample fragment])
      (middle.advance tag.timestampMs sample) := by
  induction timeline with
  | nil counters => exact cons found describes (nil _)
  | cons earlier described more ih => exact cons earlier described (ih found describes)

end Timeline

/-! ## One call -/

@[simp]
theorem supportedTags_append (first second : List (FlvTag env.toCodecs)) :
    supportedTags (first ++ second) = supportedTags first ++ supportedTags second :=
  List.filter_append ..

theorem supportedTags_eq_nil {tags : List (FlvTag env.toCodecs)}
    (unsupported : ∀ tag ∈ tags, media tag = none) : supportedTags tags = [] := by
  apply List.filter_eq_nil_iff.mpr
  intro tag member
  rw [unsupported tag member]
  exact Bool.false_ne_true

/-- A tag behind unsupported ones is the first supported one. -/
theorem supportedTags_split {framerate : Float} {lastVideoTimestamp : UInt32}
    {skipped : List (FlvTag env.toCodecs)} {tag : FlvTag env.toCodecs} {sample : Sample}
    (unsupported : ∀ other ∈ skipped, media other = none)
    (found : sampleOf framerate lastVideoTimestamp tag = some sample)
    (rest : List (FlvTag env.toCodecs)) :
    supportedTags (skipped ++ tag :: rest) = tag :: supportedTags rest := by
  have supported : (media tag).isSome = true := by
    rw [media_eq_sampleOf framerate lastVideoTimestamp, found]
    rfl
  rw [supportedTags_append, supportedTags_eq_nil unsupported, List.nil_append]
  exact List.filter_cons_of_pos supported

/-- The tags that are taken end with the first supported one, or the queue is used
up. -/
theorem muxTags_cases (framerate : Float) (transmuxer : Transmuxer env)
    (tags : List (FlvTag env.toCodecs)) :
    ((∀ tag ∈ tags, media tag = none) ∧
        transmuxer.muxTags framerate tags = (.ok none, { transmuxer with tags := [] })) ∨
      ∃ skipped tag rest sample, tags = skipped ++ tag :: rest ∧
        (∀ other ∈ skipped, media other = none) ∧
        sampleOf framerate transmuxer.lastVideoTimestamp tag = some sample ∧
        transmuxer.muxTags framerate tags =
          Transmuxer.writeSegment { transmuxer with tags := rest } tag.timestampMs sample := by
  induction tags with
  | nil => exact Or.inl ⟨fun _ member => (List.not_mem_nil member).elim, rfl⟩
  | cons tag tags ih =>
      have described := media_eq_sampleOf framerate transmuxer.lastVideoTimestamp tag
      cases found : sampleOf framerate transmuxer.lastVideoTimestamp tag with
      | some sample =>
          right
          exact ⟨[], tag, tags, sample, rfl, fun _ member => (List.not_mem_nil member).elim, found,
            Transmuxer.muxTags_supported framerate transmuxer tags found⟩
      | none =>
          rw [found] at described
          have skips : transmuxer.muxTags framerate (tag :: tags) =
              transmuxer.muxTags framerate tags := by
            rw [Transmuxer.muxTags, found]
          rw [skips]
          rcases ih with ⟨unsupported, exhausted⟩ |
            ⟨skipped, next, rest, sample, split, unsupported, taken, written⟩
          · left
            exact ⟨List.forall_mem_cons.mpr ⟨described, unsupported⟩, exhausted⟩
          · right
            refine ⟨tag :: skipped, next, rest, sample, ?_,
              List.forall_mem_cons.mpr ⟨described, unsupported⟩, taken, written⟩
            rw [split, List.cons_append]

/-- Once the settings are known, a call returns nothing only when the queue holds
nothing supported. -/
theorem mux_no_result {transmuxer : Transmuxer env}
    {settings : VideoSettings env.VideoCodec × AudioSettings env.AudioCodec}
    (ready : transmuxer.settings = some settings)
    (nothing : (Answer.muxed transmuxer.mux.1).result = none) :
    supportedTags transmuxer.tags = [] ∧ transmuxer.mux.2 = { transmuxer with tags := [] } := by
  rw [Transmuxer.mux_ready ready] at nothing ⊢
  rcases muxTags_cases settings.1.framerate transmuxer transmuxer.tags with
    ⟨unsupported, exhausted⟩ | ⟨skipped, tag, rest, sample, split, unsupported, found, written⟩
  · rw [exhausted]
    exact ⟨supportedTags_eq_nil unsupported, rfl⟩
  · have sound := sampleOf_sound found
    obtain ⟨fragment, describes⟩ := transmuxer.counters.exists_fragment sound
    rw [written, Transmuxer.writeSegment_taken sound describes rest tag.timestampMs] at nothing
    cases nothing

/-! ## The invariant of a run -/

/-- Before the init segment nothing leaves the queue.  After it, the supported
tags fed so far are those emitted followed by those still queued, and the
segments and the counters are those of the emitted tags' timeline. -/
inductive Progress :
    Transmuxer env → List (FlvTag env.toCodecs) → List (TransmuxResult env) → Prop
  | waiting (transmuxer : Transmuxer env) (unset : transmuxer.settings = none)
      (untouched : transmuxer.counters = .initial) : Progress transmuxer transmuxer.tags []
  | running (transmuxer : Transmuxer env) {fed emitted : List (FlvTag env.toCodecs)}
      {videoSettings : VideoSettings env.VideoCodec} {audioSettings : AudioSettings env.AudioCodec}
      {data : Bytes} {segments : List MediaSegment}
      (ready : transmuxer.settings = some (videoSettings, audioSettings))
      (queued : supportedTags fed = emitted ++ supportedTags transmuxer.tags)
      (timeline : Timeline videoSettings.framerate .initial emitted segments
        transmuxer.counters) :
      Progress transmuxer fed
        (.initSegment videoSettings audioSettings data :: segments.map .mediaSegment)

namespace Progress

variable {transmuxer : Transmuxer env} {fed : List (FlvTag env.toCodecs)}
  {earlier : List (TransmuxResult env)}

/-- Feeding only appends to the queue. -/
theorem feed (progress : Progress transmuxer fed earlier) (tags : List (FlvTag env.toCodecs)) :
    Progress { transmuxer with tags := transmuxer.tags ++ tags } (fed ++ tags) earlier := by
  cases progress with
  | waiting unset untouched => exact waiting _ unset untouched
  | running ready queued timeline =>
      refine running _ ready ?_ timeline
      rw [supportedTags_append, supportedTags_append, queued, List.append_assoc]

/-- The init segment starts the timeline with everything still queued. -/
theorem start (untouched : transmuxer.counters = .initial)
    (videoSettings : VideoSettings env.VideoCodec)
    (audioSettings : AudioSettings env.AudioCodec) (data : Bytes) :
    Progress { transmuxer with settings := some (videoSettings, audioSettings) } transmuxer.tags
      [.initSegment videoSettings audioSettings data] := by
  have timeline : @Timeline env videoSettings.framerate .initial [] [] transmuxer.counters := by
    rw [untouched]
    exact Timeline.nil _
  exact running { transmuxer with settings := some (videoSettings, audioSettings) } rfl rfl timeline

/-- The first supported tag in the queue extends the timeline. -/
theorem emit {videoSettings : VideoSettings env.VideoCodec}
    {audioSettings : AudioSettings env.AudioCodec} {data : Bytes}
    {emitted skipped rest : List (FlvTag env.toCodecs)} {segments : List MediaSegment}
    {tag : FlvTag env.toCodecs} {sample : Sample}
    (ready : transmuxer.settings = some (videoSettings, audioSettings))
    (queued : supportedTags fed = emitted ++ supportedTags (skipped ++ tag :: rest))
    (timeline : Timeline videoSettings.framerate .initial emitted segments transmuxer.counters)
    (unsupported : ∀ other ∈ skipped, media other = none)
    (found : sampleOf videoSettings.framerate transmuxer.lastVideoTimestamp tag = some sample) :
    ∃ segment next,
      Transmuxer.writeSegment { transmuxer with tags := rest } tag.timestampMs sample =
        (.ok (some (.mediaSegment segment)), next) ∧
      Progress next fed (.initSegment videoSettings audioSettings data ::
        (segments ++ [segment]).map .mediaSegment) := by
  have sound := sampleOf_sound found
  obtain ⟨fragment, describes⟩ := transmuxer.counters.exists_fragment sound
  refine ⟨_, _, Transmuxer.writeSegment_taken sound describes rest tag.timestampMs, ?_⟩
  refine running _ ready ?_ (timeline.snoc found describes)
  rw [queued, supportedTags_split unsupported found, List.append_assoc]
  rfl

theorem mux (progress : Progress transmuxer fed earlier) :
    Progress transmuxer.mux.2 fed (earlier ++ (Answer.muxed transmuxer.mux.1).result.toList) := by
  cases progress with
  | waiting unset untouched =>
      unfold Transmuxer.mux
      rw [unset]
      cases transmuxer.initSequence with
      | error error => exact waiting _ unset untouched
      | ok found =>
          cases found with
          | none =>
              dsimp only
              split
              · exact waiting _ unset untouched
              · exact waiting _ unset untouched
          | some built => exact start untouched built.2.1 built.2.2 built.1
  | @running _ emitted videoSettings audioSettings data segments ready queued timeline =>
      rw [Transmuxer.mux_ready ready]
      rcases muxTags_cases videoSettings.framerate transmuxer transmuxer.tags with
        ⟨unsupported, exhausted⟩ |
          ⟨skipped, tag, rest, sample, split, unsupported, found, written⟩
      · rw [exhausted]
        change Progress _ _ (_ ++ [])
        rw [List.append_nil]
        refine running _ ready ?_ timeline
        rw [queued, supportedTags_eq_nil unsupported]
        rfl
      · rw [split] at queued
        obtain ⟨segment, next, result, progress⟩ :=
          emit ready queued timeline unsupported found
        rw [written, result]
        rw [List.map_append] at progress
        exact progress

theorem step (progress : Progress transmuxer fed earlier) (call : Call env) :
    Progress (transmuxer.step call).2 (fed ++ call.fed)
      (earlier ++ (transmuxer.step call).1.result.toList) := by
  cases call with
  | addTag tag =>
      change Progress _ _ (earlier ++ [])
      rw [List.append_nil]
      exact progress.feed [tag]
  | demux data =>
      change Progress _ _ (earlier ++ [])
      rw [List.append_nil]
      exact progress.feed _
  | mux =>
      change Progress _ (fed ++ []) _
      rw [List.append_nil]
      exact progress.mux

/-- The invariant of every run from the start. -/
theorem of_calls (calls : List (Call env)) :
    Progress (Transmuxer.new.run calls).2 (fedTags calls)
      (results (Transmuxer.new.run calls).1) :=
  Reactive.run_invariant Call.fed Answer.result Progress.step (waiting Transmuxer.new rfl rfl) calls

theorem filterMap_segment (videoSettings : VideoSettings env.VideoCodec)
    (audioSettings : AudioSettings env.AudioCodec) (data : Bytes) (segments : List MediaSegment) :
    (TransmuxResult.initSegment videoSettings audioSettings data ::
      segments.map .mediaSegment).filterMap TransmuxResult.segment = segments := by
  rw [List.filterMap_cons_none rfl, List.filterMap_map]
  exact List.filterMap_some

/-- The segments handed out are the timeline of a first part of the supported
tags. -/
theorem segments_timeline (progress : Progress transmuxer fed earlier) :
    ∃ framerate emitted rest, supportedTags fed = emitted ++ rest ∧
      Timeline framerate .initial emitted (earlier.filterMap TransmuxResult.segment)
        transmuxer.counters := by
  cases progress with
  | waiting unset untouched =>
      refine ⟨0, [], supportedTags transmuxer.tags, rfl, ?_⟩
      rw [untouched]
      exact Timeline.nil _
  | @running _ emitted videoSettings audioSettings data segments ready queued timeline =>
      rw [filterMap_segment]
      exact ⟨videoSettings.framerate, emitted, supportedTags transmuxer.tags, queued, timeline⟩

end Progress

end ScuffleVideo.Transmux
