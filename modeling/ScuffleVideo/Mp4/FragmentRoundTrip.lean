import ScuffleVideo.Mp4.DynBox

/-!
# Movie fragments of one run

A track fragment with a header, a decode time and one run, and a movie fragment
with one such track.  Written with their headers they have the size they
announce, and reading them back box by box recovers them.  What a player takes
from a track fragment is the effective value of each sample field: the one in
the run, or else the default of the track.
-/

namespace ScuffleVideo.Mp4

open Wire Wire.Reader

/-! ## Effective samples -/

structure EffectiveSample where
  duration : Option UInt32
  size : Option UInt32
  flags : Option TrunSampleFlag
  compositionTimeOffset : Int64
  deriving DecidableEq, Repr

/-- A sample under the defaults of its track.  The flags of the first sample may
be given apart. -/
def Tfhd.effective (tfhd : Tfhd) (firstSampleFlags : Option TrunSampleFlag)
    (sample : TrunSample) : EffectiveSample where
  duration := sample.duration.or tfhd.defaultSampleDuration
  size := sample.size.or tfhd.defaultSampleSize
  flags := (firstSampleFlags.or sample.flags).or tfhd.defaultSampleFlags
  compositionTimeOffset := sample.compositionTimeOffset.getD 0

namespace Traf

variable {Unknown : Type}

def effectiveSamples (traf : Traf Unknown) : List EffectiveSample :=
  match traf.trun with
  | none => []
  | some trun =>
      match trun.samples with
      | [] => []
      | first :: rest =>
          traf.tfhd.effective trun.firstSampleFlags first ::
            rest.map (traf.tfhd.effective none)

/-- The sum of the sample durations. -/
def duration (traf : Traf Unknown) : UInt32 :=
  match traf.trun with
  | none => 0
  | some trun =>
      trun.samples.foldl
        (fun total sample =>
          total + ((sample.duration.or traf.tfhd.defaultSampleDuration).getD 0)) 0

/-- A track fragment with one run and a decode time. -/
def ofRun (tfhd : Tfhd) (tfdt : Tfdt) (trun : Trun) : Traf Unknown :=
  ⟨⟨name⟩, tfhd, some trun, none, none, some tfdt, []⟩

theorem written_ofRun {tfhd : Tfhd} {tfdt : Tfdt} {trun : Trun} {first time run : Bytes}
    (tfhdWritten : Written tfhd first) (tfdtWritten : Written tfdt time)
    (trunWritten : Written trun run) :
    Written (ofRun tfhd tfdt trun : Traf DynBox)
      (frame Tfhd.name first ++ (frame Tfdt.name time ++ frame Trun.name run)) where
  valid := rfl
  written := by
    change DynBox.primitiveMuxTraf _ = _
    unfold ofRun DynBox.primitiveMuxTraf
    simp only [muxOption, DynBox.muxAll, tfhdWritten.mux, tfdtWritten.mux,
      trunWritten.mux, Tfhd.boxName, Tfdt.boxName, Trun.boxName]
    simp only [bind, Except.bind, pure, Except.pure, List.append_nil, List.append_assoc]
  sized := by
    change DynBox.primitiveSizeTraf _ = _
    unfold ofRun DynBox.primitiveSizeTraf
    simp only [sizeOption, tfhdWritten.size, tfdtWritten.size, trunWritten.size, DynBox.sizes,
      List.length_append, Tfhd.boxName, Tfdt.boxName, Trun.boxName]
    omega

end Traf

/-- A movie fragment with one track fragment. -/
theorem Moof.written_single {mfhd : Mfhd} {traf : Traf DynBox} {first fragment : Bytes}
    (mfhdWritten : Written mfhd first) (trafWritten : Written traf fragment) :
    Written (Moof.new mfhd [traf] : Moof DynBox)
      (frame Mfhd.name first ++ frame Traf.name fragment) where
  valid := rfl
  written := by
    change DynBox.primitiveMuxMoof _ = _
    have inner : DynBox.primitiveMuxTraf traf = .ok fragment := trafWritten.written
    have size : DynBox.primitiveSizeTraf traf = fragment.length := trafWritten.sized
    unfold Moof.new DynBox.primitiveMuxMoof DynBox.muxTrafs
    simp only [DynBox.muxAll, DynBox.muxTrafs, mfhdWritten.mux, inner, size, Mfhd.boxName]
    simp only [bind, Except.bind, pure, Except.pure, List.append_nil]
    rfl
  sized := by
    change DynBox.primitiveSizeMoof _ = _
    have size : DynBox.primitiveSizeTraf traf = fragment.length := trafWritten.sized
    unfold Moof.new DynBox.primitiveSizeMoof DynBox.sizeTrafs
    simp only [mfhdWritten.size, size, DynBox.sizes, DynBox.sizeTrafs, List.length_append,
      length_frame, Nat.add_zero]

namespace DynBox

/-! ## Reading fragments back -/

theorem reads_ofRun (checks : OverflowChecks) (depth : Nat) {tfhd : Tfhd} {tfdt : Tfdt}
    {trun : Trun} {first time run : Bytes}
    (tfhdRead : Reads (Tfhd.read ⟨Tfhd.name⟩) first tfhd)
    (tfdtRead : Reads (Tfdt.read ⟨Tfdt.name⟩) time tfdt)
    (trunRead : Reads (Trun.read .unlimited ⟨Trun.name⟩) run trun)
    (room : first.length + time.length + run.length + 64 < 2 ^ 64) :
    Reads (demuxWithin checks (depth + 2))
      (frame Traf.name (frame Tfhd.name first ++ (frame Tfdt.name time ++ frame Trun.name run)))
      (.traf (Traf.ofRun tfhd tfdt trun)) := by
  have boxes : ReadsAll (demuxWithin checks (depth + 1)) [.tfhd tfhd, .tfdt tfdt, .trun trun]
      (frame Tfhd.name first ++ (frame Tfdt.name time ++ (frame Trun.name run ++ []))) := by
    apply ReadsAll.cons (demuxWithin_frame checks (by omega) (ofData_tfhd checks _ tfhdRead))
      (frame_ne_nil _ _)
    apply ReadsAll.cons (demuxWithin_frame checks (by omega) (ofData_tfdt checks _ tfdtRead))
      (frame_ne_nil _ _)
    apply ReadsAll.cons (demuxWithin_frame checks (by omega) (ofData_trun checks _ trunRead))
      (frame_ne_nil _ _)
    exact ReadsAll.nil
  rw [List.append_nil] at boxes
  apply demuxWithin_frame checks
  · have tfhdSize := boxSize_le first.length
    have tfdtSize := boxSize_le time.length
    have trunSize := boxSize_le run.length
    simp only [List.length_append, length_frame]
    omega
  · exact ofData_traf checks _ (boxes.parse IoFault.unfinished) rfl

theorem reads_single (checks : OverflowChecks) (depth : Nat) {mfhd : Mfhd} {traf : Traf DynBox}
    {first fragment : Bytes} (mfhdRead : Reads (Mfhd.read ⟨Mfhd.name⟩) first mfhd)
    (trafRead : Reads (demuxWithin checks (depth + 2)) (frame Traf.name fragment) (.traf traf))
    (room : first.length + fragment.length + 48 < 2 ^ 64) :
    Reads (demuxWithin checks (depth + 3))
      (frame Moof.name (frame Mfhd.name first ++ frame Traf.name fragment))
      (.moof (Moof.new mfhd [traf])) := by
  have boxes : ReadsAll (demuxWithin checks (depth + 2)) [.mfhd mfhd, .traf traf]
      (frame Mfhd.name first ++ (frame Traf.name fragment ++ [])) := by
    apply ReadsAll.cons (demuxWithin_frame checks (by omega) (ofData_mfhd checks _ mfhdRead))
      (frame_ne_nil _ _)
    apply ReadsAll.cons trafRead (frame_ne_nil _ _)
    exact ReadsAll.nil
  rw [List.append_nil] at boxes
  apply demuxWithin_frame checks
  · have mfhdSize := boxSize_le first.length
    have trafSize := boxSize_le fragment.length
    simp only [List.length_append, length_frame]
    omega
  · exact ofData_moof checks _ (boxes.parse IoFault.unfinished) rfl

/-- A box that is read at every depth from three on is read at the depth that
`demux` allows itself. -/
theorem demux_reads {checks : OverflowChecks} {bytes : Bytes} {box : DynBox}
    (read : ∀ depth, Reads (demuxWithin checks (depth + 3)) bytes box)
    (long : 2 ≤ bytes.length) : Reads (demux checks) bytes box := by
  intro before after
  obtain ⟨depth, deep⟩ : ∃ depth, (before ++ bytes ++ after).length + 1 = depth + 3 := by
    apply Nat.exists_eq_add_of_le'
    simp only [List.length_append]
    omega
  rw [demux, deep]
  exact read depth before after

theorem mdat_reads (checks : OverflowChecks) {data : Bytes} (room : data.length + 16 < 2 ^ 64) :
    Reads (demux checks) (frame Mdat.name data) (.mdat (.new [data])) := by
  apply demux_reads fun depth => demuxWithin_frame checks room (ofData_mdat checks _)
  rw [length_frame]
  unfold boxSize
  split <;> omega

/-- Read boxes until the data ends. -/
def demuxAll (checks : OverflowChecks) (data : Bytes) : Except IoFault (List DynBox) :=
  (whileRemaining IoFault.unfinished (demux checks) data.length).parse data

theorem demuxAll_eq_ok {checks : OverflowChecks} {bytes : Bytes} {boxes : List DynBox}
    (records : ReadsAll (demux checks) boxes bytes) : demuxAll checks bytes = .ok boxes := by
  have rounds : demuxAll checks bytes =
      (untilEnd IoFault.unfinished (demux checks)).parse bytes := by
    unfold demuxAll parse
    rw [untilEnd]
  rw [rounds]
  exact records.parse IoFault.unfinished

end DynBox

end ScuffleVideo.Mp4
