import ScuffleVideo.Mp4.FragmentRoundTrip

/-!
# What optimizing a track fragment keeps

Optimizing moves what the samples share to the defaults of the track and takes
both flag words anew.  A sample means its own value, then the value given apart
for the first one, then the default of the track; no pass changes that meaning.
The flag words are another matter: they leave out the description index, and a
run of version 1 may lose the offsets that its version is there for.
-/

namespace ScuffleVideo.Mp4

open Wire

namespace Traf

variable {Unknown : Type}

/-! ## Meaning -/

/-- A sample under the defaults of its track.  Its own flags come before those given
apart. -/
def meaning (tfhd : Tfhd) (apart : Option TrunSampleFlag) (sample : TrunSample) :
    EffectiveSample where
  duration := sample.duration.or tfhd.defaultSampleDuration
  size := sample.size.or tfhd.defaultSampleSize
  flags := (sample.flags.or apart).or tfhd.defaultSampleFlags
  compositionTimeOffset := sample.compositionTimeOffset.getD 0

def runMeanings (tfhd : Tfhd) (trun : Trun) : List EffectiveSample :=
  match trun.samples with
  | [] => []
  | first :: rest => meaning tfhd trun.firstSampleFlags first :: rest.map (meaning tfhd none)

def meanings (traf : Traf Unknown) : List EffectiveSample :=
  match traf.trun with
  | none => []
  | some trun => runMeanings traf.tfhd trun

theorem foldl_runMeanings (tfhd : Tfhd) (trun : Trun) :
    (runMeanings tfhd trun).foldl (fun total sample => total + sample.duration.getD 0)
        (0 : UInt32) =
      trun.samples.foldl
        (fun total sample => total + (sample.duration.or tfhd.defaultSampleDuration).getD 0) 0 := by
  unfold runMeanings
  cases trun.samples with
  | nil => rfl
  | cons first rest =>
      rw [List.foldl_cons, List.foldl_cons, List.foldl_map]
      rfl

/-- The duration is a matter of meaning. -/
theorem duration_eq (traf : Traf Unknown) :
    traf.duration =
      traf.meanings.foldl (fun total sample => total + sample.duration.getD 0) 0 := by
  unfold duration meanings
  cases traf.trun with
  | none => rfl
  | some trun => exact (foldl_runMeanings traf.tfhd trun).symm

/-- Whether some flags of the run, or those that stand in for them, are those of a
keyframe. -/
def runKeyframe (tfhd : Tfhd) (trun : Trun) : Bool :=
  trun.firstSampleFlags.any isKeyframe ||
    trun.samples.any fun sample => (sample.flags.or tfhd.defaultSampleFlags).any isKeyframe

/-! ## What each pass does -/

/-- Every sample has the offset zero. -/
def Unshifted (trun : Trun) : Prop :=
  ∀ sample ∈ trun.samples, sample.compositionTimeOffset = some 0

instance : DecidablePred Unshifted := fun trun => inferInstanceAs
  (Decidable (∀ sample ∈ trun.samples, sample.compositionTimeOffset = some 0))

section Passes

variable (tfhd : Tfhd) (trun : Trun)

theorem optimizeFlags_cases :
    optimizeFlags tfhd trun = (tfhd, trun) ∨
      ∃ first second rest, trun.samples = first :: second :: rest ∧
        tfhd.defaultSampleFlags = none ∧ (∀ sample ∈ rest, sample.flags = second.flags) ∧
        optimizeFlags tfhd trun =
          ({ tfhd with defaultSampleFlags := second.flags },
            { trun with
              firstSampleFlags :=
                if first.flags != second.flags then first.flags else trun.firstSampleFlags
              samples := trun.samples.map fun sample => { sample with flags := none } }) := by
  unfold optimizeFlags
  split
  · rename_i first second rest found
    split
    · rename_i shared
      rw [Bool.and_eq_true, List.all_eq_true, Option.isNone_iff_eq_none] at shared
      refine .inr ⟨first, second, rest, found, shared.1, ?_, rfl⟩
      intro sample member
      exact eq_of_beq (shared.2 sample member)
    · exact .inl rfl
  · exact .inl rfl

theorem optimizeOffsets_cases :
    (¬Unshifted trun ∧ optimizeOffsets trun = trun) ∨
      Unshifted trun ∧ optimizeOffsets trun =
        { trun with
          samples := trun.samples.map fun sample =>
            { sample with compositionTimeOffset := none } } := by
  have iff : trun.samples.all (·.compositionTimeOffset == some 0) = true ↔ Unshifted trun := by
    simp only [List.all_eq_true, beq_iff_eq]
    rfl
  unfold optimizeOffsets
  split
  · rename_i zero
    exact .inr ⟨iff.mp zero, rfl⟩
  · rename_i nonzero
    exact .inl ⟨fun zero => nonzero (iff.mpr zero), rfl⟩

theorem optimizeDuration_cases :
    optimizeDuration tfhd trun = (tfhd, trun) ∨
      ∃ shared, tfhd.defaultSampleDuration = none ∧
        (∀ sample ∈ trun.samples, sample.duration = shared) ∧
        optimizeDuration tfhd trun =
          ({ tfhd with defaultSampleDuration := shared },
            { trun with
              samples := trun.samples.map fun sample => { sample with duration := none } }) := by
  unfold optimizeDuration
  split
  · rename_i first rest found
    split
    · rename_i shared
      rw [Bool.and_eq_true, List.all_eq_true, Option.isNone_iff_eq_none] at shared
      refine .inr ⟨first.duration, shared.1, ?_, rfl⟩
      rw [found, List.forall_mem_cons]
      exact ⟨rfl, fun sample member => eq_of_beq (shared.2 sample member)⟩
    · exact .inl rfl
  · exact .inl rfl

theorem optimizeSize_cases :
    optimizeSize tfhd trun = (tfhd, trun) ∨
      ∃ shared, tfhd.defaultSampleSize = none ∧
        (∀ sample ∈ trun.samples, sample.size = shared) ∧
        optimizeSize tfhd trun =
          ({ tfhd with defaultSampleSize := shared },
            { trun with
              samples := trun.samples.map fun sample => { sample with size := none } }) := by
  unfold optimizeSize
  split
  · rename_i first rest found
    split
    · rename_i shared
      rw [Bool.and_eq_true, List.all_eq_true, Option.isNone_iff_eq_none] at shared
      refine .inr ⟨first.size, shared.1, ?_, rfl⟩
      rw [found, List.forall_mem_cons]
      exact ⟨rfl, fun sample member => eq_of_beq (shared.2 sample member)⟩
    · exact .inl rfl
  · exact .inl rfl

end Passes

/-- The header and the run after all passes, with their flag words still as they
were. -/
def optimizeRun (tfhd : Tfhd) (trun : Trun) : Tfhd × Trun :=
  let (tfhd, trun) := optimizeFlags tfhd trun
  let (tfhd, trun) := optimizeDuration tfhd (optimizeOffsets trun)
  optimizeSize tfhd trun

def retagTfhd (tfhd : Tfhd) : Tfhd :=
  { tfhd with header := { tfhd.header with flags := tfhdFlags tfhd } }

def retagTrun (trun : Trun) : Trun :=
  { trun with header := { trun.header with flags := trunFlags trun } }

theorem optimize_cases (traf : Traf Unknown) :
    ((∀ trun, traf.trun = some trun → trun.samples = []) ∧ traf.optimize = traf) ∨
      ∃ trun, traf.trun = some trun ∧ trun.samples ≠ [] ∧
        traf.optimize = { traf with
          tfhd := retagTfhd (optimizeRun traf.tfhd trun).1
          trun := some (retagTrun (optimizeRun traf.tfhd trun).2) } := by
  unfold optimize
  cases found : traf.trun with
  | none => exact .inl ⟨nofun, rfl⟩
  | some trun =>
      dsimp only
      split
      · rename_i empty
        refine .inl ⟨?_, rfl⟩
        intro other same
        cases same
        exact List.isEmpty_iff.mp empty
      · rename_i nonempty
        refine .inr ⟨trun, rfl, ?_, rfl⟩
        intro empty
        exact nonempty (List.isEmpty_iff.mpr empty)

/-! ## No pass changes the meaning -/

section Meaning

variable {tfhd : Tfhd} {trun : Trun}

/-- Samples change their form but not their meaning. -/
theorem runMeanings_map {next : Tfhd} (change : TrunSample → TrunSample)
    (same : ∀ sample ∈ trun.samples, ∀ apart,
      meaning next apart (change sample) = meaning tfhd apart sample) :
    runMeanings next { trun with samples := trun.samples.map change } =
      runMeanings tfhd trun := by
  unfold runMeanings
  cases found : trun.samples with
  | nil => rfl
  | cons first rest =>
      rw [found, List.forall_mem_cons] at same
      simp only [List.map_cons, List.map_map, List.cons.injEq]
      refine ⟨same.1 _, List.map_congr_left ?_⟩
      intro sample member
      exact same.2 sample member none

theorem runMeanings_optimizeOffsets :
    runMeanings tfhd (optimizeOffsets trun) = runMeanings tfhd trun := by
  rcases optimizeOffsets_cases trun with ⟨_, same⟩ | ⟨zero, changed⟩
  · rw [same]
  · rw [changed]
    apply runMeanings_map
    intro sample member apart
    simp only [meaning, zero sample member, Option.getD_none, Option.getD_some]

theorem runMeanings_optimizeDuration :
    runMeanings (optimizeDuration tfhd trun).1 (optimizeDuration tfhd trun).2 =
      runMeanings tfhd trun := by
  rcases optimizeDuration_cases tfhd trun with same | ⟨shared, absent, equal, changed⟩
  · rw [same]
  · rw [changed]
    apply runMeanings_map
    intro sample member apart
    simp only [meaning, absent, equal sample member, Option.none_or, Option.or_none]

theorem runMeanings_optimizeSize :
    runMeanings (optimizeSize tfhd trun).1 (optimizeSize tfhd trun).2 =
      runMeanings tfhd trun := by
  rcases optimizeSize_cases tfhd trun with same | ⟨shared, absent, equal, changed⟩
  · rw [same]
  · rw [changed]
    apply runMeanings_map
    intro sample member apart
    simp only [meaning, absent, equal sample member, Option.none_or, Option.or_none]

/-- The flags of the first sample are not given both apart and in the sample. -/
def FlagsApart (trun : Trun) : Prop :=
  trun.firstSampleFlags = none ∨ ∀ sample ∈ trun.samples, sample.flags = none

/-- The samples carry no flags, or all of them do and none are given apart. -/
theorem flags_cases {first second apart : Option TrunSampleFlag}
    (uniform : first.isSome = second.isSome) (given : apart = none ∨ first = none) :
    (first = none ∧ second = none) ∨
      ∃ flags others, first = some flags ∧ second = some others ∧ apart = none := by
  cases first with
  | none =>
      cases second with
      | none => exact .inl ⟨rfl, rfl⟩
      | some flags => cases uniform
  | some flags =>
      cases second with
      | none => cases uniform
      | some others =>
          rcases given with absent | impossible
          · exact .inr ⟨flags, others, rfl, rfl, absent⟩
          · cases impossible

/-- In a run that carries flags or carries none, the flags given apart after the
pass stand for what the first sample meant before it. -/
theorem moved_first {first second apart : Option TrunSampleFlag}
    (uniform : first.isSome = second.isSome) (given : apart = none ∨ first = none) :
    (if first != second then first else apart).or second = first.or apart := by
  rcases flags_cases uniform given with ⟨rfl, rfl⟩ | ⟨flags, others, rfl, rfl, rfl⟩
  · simp
  · by_cases equal : flags = others <;> simp [equal]

/-- The first two samples of a valid run agree on whether flags are there, and the
flags of the first are given in one place only. -/
theorem leading_flags {first second : TrunSample} {rest : List TrunSample}
    (valid : trun.Valid) (given : FlagsApart trun)
    (found : trun.samples = first :: second :: rest) :
    first.flags.isSome = second.flags.isSome ∧
      (trun.firstSampleFlags = none ∨ first.flags = none) := by
  have announced := valid.flags
  unfold FlagsApart at given
  rw [found] at announced given
  have firstShown := announced first List.mem_cons_self
  have secondShown := announced second (List.mem_cons_of_mem _ List.mem_cons_self)
  constructor
  · exact firstShown.symm.trans secondShown
  · exact given.imp_right fun none => none first List.mem_cons_self

theorem runMeanings_optimizeFlags (valid : trun.Valid) (given : FlagsApart trun) :
    runMeanings (optimizeFlags tfhd trun).1 (optimizeFlags tfhd trun).2 =
      runMeanings tfhd trun := by
  rcases optimizeFlags_cases tfhd trun with same | ⟨first, second, rest, found, absent, equal, changed⟩
  · rw [same]
  · obtain ⟨uniform, once⟩ := leading_flags valid given found
    have moved := moved_first uniform once
    rw [changed, runMeanings, runMeanings, found]
    simp only [List.map_cons, List.map_map]
    congr 1
    · simp only [meaning, absent, Option.none_or, Option.or_none, moved]
    · congr 1
      · simp only [meaning, absent, Option.none_or, Option.or_none]
      · apply List.map_congr_left
        intro sample member
        simp only [Function.comp, meaning, absent, equal sample member, Option.none_or,
          Option.or_none]

theorem runMeanings_optimizeRun (valid : trun.Valid) (given : FlagsApart trun) :
    runMeanings (optimizeRun tfhd trun).1 (optimizeRun tfhd trun).2 = runMeanings tfhd trun := by
  unfold optimizeRun
  dsimp only
  rw [runMeanings_optimizeSize, runMeanings_optimizeDuration, runMeanings_optimizeOffsets,
    runMeanings_optimizeFlags valid given]

/-! ## Keyframes -/

/-- Samples that keep their flags are as much keyframes as before. -/
theorem runKeyframe_map {next : Tfhd} (change : TrunSample → TrunSample)
    (default : next.defaultSampleFlags = tfhd.defaultSampleFlags)
    (kept : ∀ sample, (change sample).flags = sample.flags) :
    runKeyframe next { trun with samples := trun.samples.map change } = runKeyframe tfhd trun := by
  unfold runKeyframe
  dsimp only
  rw [List.any_map, default]
  congr 2
  funext sample
  rw [Function.comp, kept]

theorem runKeyframe_optimizeOffsets :
    runKeyframe tfhd (optimizeOffsets trun) = runKeyframe tfhd trun := by
  rcases optimizeOffsets_cases trun with ⟨_, same⟩ | ⟨_, changed⟩
  · rw [same]
  · rw [changed]
    exact runKeyframe_map _ rfl fun _ => rfl

theorem runKeyframe_optimizeDuration :
    runKeyframe (optimizeDuration tfhd trun).1 (optimizeDuration tfhd trun).2 =
      runKeyframe tfhd trun := by
  rcases optimizeDuration_cases tfhd trun with same | ⟨_, _, _, changed⟩
  · rw [same]
  · rw [changed]
    exact runKeyframe_map _ rfl fun _ => rfl

theorem runKeyframe_optimizeSize :
    runKeyframe (optimizeSize tfhd trun).1 (optimizeSize tfhd trun).2 =
      runKeyframe tfhd trun := by
  rcases optimizeSize_cases tfhd trun with same | ⟨_, _, _, changed⟩
  · rw [same]
  · rw [changed]
    exact runKeyframe_map _ rfl fun _ => rfl

/-- The first flags, apart or not, and the shared ones are looked at in both forms. -/
theorem moved_keyframe {first second apart : Option TrunSampleFlag}
    (uniform : first.isSome = second.isSome) (given : apart = none ∨ first = none) :
    ((if first != second then first else apart).any isKeyframe || second.any isKeyframe) =
      (apart.any isKeyframe || (first.any isKeyframe || second.any isKeyframe)) := by
  rcases flags_cases uniform given with ⟨rfl, rfl⟩ | ⟨flags, others, rfl, rfl, rfl⟩
  · simp
  · by_cases equal : flags = others <;> simp [equal]

theorem any_of_shared {samples : List TrunSample} {shared : Option TrunSampleFlag}
    (equal : ∀ sample ∈ samples, sample.flags = shared) :
    (shared.any isKeyframe || samples.any fun sample => sample.flags.any isKeyframe) =
      shared.any isKeyframe := by
  rw [Bool.or_eq_left_iff_imp, List.any_eq_true]
  rintro ⟨sample, member, key⟩
  rwa [equal sample member] at key

theorem runKeyframe_optimizeFlags (valid : trun.Valid) (given : FlagsApart trun) :
    runKeyframe (optimizeFlags tfhd trun).1 (optimizeFlags tfhd trun).2 =
      runKeyframe tfhd trun := by
  rcases optimizeFlags_cases tfhd trun with same | ⟨first, second, rest, found, absent, equal, changed⟩
  · rw [same]
  · obtain ⟨uniform, once⟩ := leading_flags valid given found
    have moved := moved_keyframe uniform once
    have after : (trun.samples.map fun sample => { sample with flags := none }).any
        (fun sample => (sample.flags.or second.flags).any isKeyframe) =
          second.flags.any isKeyframe := by
      rw [found, List.any_map, Bool.eq_iff_iff, List.any_eq_true]
      simp [Function.comp]
    have before : trun.samples.any
        (fun sample => (sample.flags.or tfhd.defaultSampleFlags).any isKeyframe) =
          (first.flags.any isKeyframe || second.flags.any isKeyframe) := by
      rw [found, absent]
      simp only [Option.or_none, List.any_cons, any_of_shared equal]
    rw [changed, runKeyframe, runKeyframe, after, before, moved]

theorem runKeyframe_optimizeRun (valid : trun.Valid) (given : FlagsApart trun) :
    runKeyframe (optimizeRun tfhd trun).1 (optimizeRun tfhd trun).2 = runKeyframe tfhd trun := by
  unfold optimizeRun
  dsimp only
  rw [runKeyframe_optimizeSize, runKeyframe_optimizeDuration, runKeyframe_optimizeOffsets,
    runKeyframe_optimizeFlags valid given]

end Meaning

/-- Optimizing a valid fragment keeps what each of its samples means, the duration
and whether there is a keyframe. -/
theorem optimize_keeps_meaning (traf : Traf Unknown)
    (run : ∀ trun, traf.trun = some trun → trun.validate = .ok ())
    (given : ∀ trun, traf.trun = some trun → FlagsApart trun) :
    traf.optimize.meanings = traf.meanings ∧ traf.optimize.duration = traf.duration ∧
      traf.optimize.containsKeyframe = traf.containsKeyframe := by
  rcases optimize_cases traf with ⟨_, same⟩ | ⟨trun, found, _, changed⟩
  · rw [same]
    exact ⟨rfl, rfl, rfl⟩
  · have valid := Trun.validate_eq_ok.mp (run trun found)
    have samples : traf.optimize.meanings = traf.meanings := by
      rw [changed, meanings, meanings, found]
      exact runMeanings_optimizeRun valid (given trun found)
    have keyframe : traf.optimize.containsKeyframe = traf.containsKeyframe := by
      rw [changed, containsKeyframe, containsKeyframe, found]
      exact runKeyframe_optimizeRun valid (given trun found)
    refine ⟨samples, ?_, keyframe⟩
    rw [duration_eq, duration_eq, samples]

/-! ## A fragment with a keyframe in front -/

/-- The flags of a sample that depends on others, or of one that does not. -/
def flagsOf (sampleDependsOn : UInt8) : TrunSampleFlag := ⟨0, 0, sampleDependsOn, 0, 0, 0, false, 0⟩

/-- A keyframe and two frames that share everything but their size with each other. -/
def keyframeRun : Trun :=
  Trun.new
    [⟨some 33, some 900, some (flagsOf 2), some 0⟩, ⟨some 33, some 40, some (flagsOf 1), some 0⟩,
      ⟨some 33, some 50, some (flagsOf 1), some 0⟩] none

def keyframeTraf : Traf DynBox :=
  Traf.new (Tfhd.new 1 none none none none none) (some keyframeRun) none

theorem keyframeTraf_keeps_meaning :
    keyframeRun.validate = .ok () ∧ FlagsApart keyframeRun ∧
      keyframeTraf.optimize.meanings = keyframeTraf.meanings ∧
      keyframeTraf.optimize.duration = keyframeTraf.duration ∧
      keyframeTraf.optimize.containsKeyframe = keyframeTraf.containsKeyframe := by
  have valid : keyframeRun.validate = .ok () := by rfl
  have apart : FlagsApart keyframeRun := .inl rfl
  refine ⟨valid, apart, ?_⟩
  apply optimize_keeps_meaning keyframeTraf
  · rintro trun ⟨⟩
    exact valid
  · rintro trun ⟨⟩
    exact apart

/-! ## Validity -/

/-- Every sample has the field if the first one does. -/
def Uniform {γ : Type} (field : TrunSample → Option γ) (samples : List TrunSample) : Prop :=
  ∀ sample ∈ samples, (samples.head?.bind field).isSome = (field sample).isSome

theorem Uniform.of_announced {γ : Type} {field : TrunSample → Option γ} {samples : List TrunSample}
    {announced : Bool} (shown : ∀ sample ∈ samples, announced = (field sample).isSome) :
    Uniform field samples := by
  intro sample member
  cases samples with
  | nil => cases member
  | cons first rest => exact (shown first List.mem_cons_self).symm.trans (shown sample member)

theorem Uniform.map {γ : Type} {field : TrunSample → Option γ} {samples : List TrunSample}
    {change : TrunSample → TrunSample} (uniform : Uniform (fun sample => field (change sample)) samples) :
    Uniform field (samples.map change) := by
  intro sample member
  obtain ⟨original, within, rfl⟩ := List.mem_map.mp member
  rw [← uniform original within, List.head?_map]
  cases samples.head? <;> rfl

theorem Uniform.none {γ : Type} {samples : List TrunSample} :
    Uniform (fun _ => (Option.none : Option γ)) samples := by
  intro sample member
  cases samples.head? <;> rfl

/-- What validity asks of a run apart from its flag word. -/
structure Sound (trun : Trun) : Prop where
  version : trun.header.version ≤ 1
  duration : Uniform (·.duration) trun.samples
  size : Uniform (·.size) trun.samples
  flags : Uniform (·.flags) trun.samples
  compositionTimeOffset : Uniform (·.compositionTimeOffset) trun.samples
  signedRange : trun.header.version = 1 → ∀ sample ∈ trun.samples, ∀ offset,
    sample.compositionTimeOffset = some offset → offset ≤ Int32.maxValue.toInt64
  unsignedRange : trun.header.version = 0 → ∀ sample ∈ trun.samples, ∀ offset,
    sample.compositionTimeOffset = some offset → offset ≤ 0xFFFFFFFF
  firstSampleFlagsValid : Trun.validateFlags trun.firstSampleFlags = .ok ()
  flagsValid : ∀ sample ∈ trun.samples, Trun.validateFlags sample.flags = .ok ()

theorem Sound.of_valid {trun : Trun} (valid : trun.Valid) : Sound trun where
  version := valid.version
  duration := Uniform.of_announced valid.duration
  size := Uniform.of_announced valid.size
  flags := Uniform.of_announced valid.flags
  compositionTimeOffset := Uniform.of_announced valid.compositionTimeOffset
  signedRange := valid.signedRange
  unsignedRange := valid.unsignedRange
  firstSampleFlagsValid := valid.firstSampleFlagsValid
  flagsValid := valid.flagsValid

/-! ### The flag words taken anew -/

/-- Each flag of the run says whether its field is there. -/
theorem hasFlag_trunFlags (trun : Trun) :
    hasFlag (trunFlags trun) Trun.flagDataOffset = trun.dataOffset.isSome ∧
    hasFlag (trunFlags trun) Trun.flagFirstSampleFlags = trun.firstSampleFlags.isSome ∧
    hasFlag (trunFlags trun) Trun.flagSampleDuration =
      (trun.samples.head?.bind (·.duration)).isSome ∧
    hasFlag (trunFlags trun) Trun.flagSampleSize = (trun.samples.head?.bind (·.size)).isSome ∧
    hasFlag (trunFlags trun) Trun.flagSampleFlags = (trun.samples.head?.bind (·.flags)).isSome ∧
    hasFlag (trunFlags trun) Trun.flagSampleCompositionTimeOffset =
      (trun.samples.head?.bind (·.compositionTimeOffset)).isSome ∧
    (trunFlags trun).toNat < 2 ^ 24 := by
  unfold trunFlags
  generalize trun.dataOffset.isSome = offset, trun.firstSampleFlags.isSome = first,
    (trun.samples.head?.bind (·.duration)).isSome = duration,
    (trun.samples.head?.bind (·.size)).isSome = size,
    (trun.samples.head?.bind (·.flags)).isSome = flags,
    (trun.samples.head?.bind (·.compositionTimeOffset)).isSome = time
  revert offset first duration size flags time
  decide

theorem retagTrun_valid_iff (trun : Trun) (sound : Sound trun) :
    (retagTrun trun).validate = .ok () ↔
      (trun.header.version = 1 →
        (trun.samples.head?.bind (·.compositionTimeOffset)).isSome = true) := by
  obtain ⟨dataOffset, firstFlags, duration, size, flags, time, _⟩ := hasFlag_trunFlags trun
  rw [Trun.validate_eq_ok]
  constructor
  · intro valid one
    rw [← time]
    exact valid.signed one
  · intro signed
    exact {
      version := sound.version
      signed := fun one => time.trans (signed one)
      dataOffset := dataOffset
      firstSampleFlags := firstFlags
      duration := fun sample member => duration.trans (sound.duration sample member)
      size := fun sample member => size.trans (sound.size sample member)
      flags := fun sample member => flags.trans (sound.flags sample member)
      compositionTimeOffset := fun sample member =>
        time.trans (sound.compositionTimeOffset sample member)
      signedRange := sound.signedRange
      unsignedRange := sound.unsignedRange
      firstSampleFlagsValid := sound.firstSampleFlagsValid
      flagsValid := sound.flagsValid }

/-- A flag kept from before leaves the others as they are. -/
theorem hasFlag_or_kept (known flags : UInt32) {kept mask : UInt32} (apart : kept &&& mask = 0) :
    hasFlag (known ||| flags &&& kept) mask = hasFlag known mask := by
  have zero : kept.toNat &&& mask.toNat = 0 := by
    rw [← UInt32.toNat_and, apart]
    rfl
  have same : (known ||| flags &&& kept) &&& mask = known &&& mask := by
    rw [← UInt32.toNat_inj]
    simp only [UInt32.toNat_and, UInt32.toNat_or, Nat.and_or_distrib_right]
    rw [Nat.and_assoc, zero, Nat.and_zero, Nat.or_zero]
  rw [hasFlag, same, hasFlag]

/-- The flags of the header say whether their fields are there, but for the
description index, whose flag is never set. -/
theorem hasFlag_tfhdFlags (tfhd : Tfhd) :
    hasFlag (tfhdFlags tfhd) Tfhd.baseDataOffsetFlag = tfhd.baseDataOffset.isSome ∧
    hasFlag (tfhdFlags tfhd) Tfhd.sampleDescriptionIndexFlag = false ∧
    hasFlag (tfhdFlags tfhd) Tfhd.defaultSampleDurationFlag = tfhd.defaultSampleDuration.isSome ∧
    hasFlag (tfhdFlags tfhd) Tfhd.defaultSampleSizeFlag = tfhd.defaultSampleSize.isSome ∧
    hasFlag (tfhdFlags tfhd) Tfhd.defaultSampleFlagsFlag = tfhd.defaultSampleFlags.isSome := by
  unfold tfhdFlags
  rw [hasFlag_or_kept _ _ rfl, hasFlag_or_kept _ _ rfl, hasFlag_or_kept _ _ rfl,
    hasFlag_or_kept _ _ rfl, hasFlag_or_kept _ _ rfl]
  generalize tfhd.baseDataOffset.isSome = offset, tfhd.defaultSampleDuration.isSome = duration,
    tfhd.defaultSampleFlags.isSome = flags, tfhd.defaultSampleSize.isSome = size
  revert offset duration flags size
  decide

theorem tfhdFlags_small (tfhd : Tfhd) : (tfhdFlags tfhd).toNat < 2 ^ 24 := by
  unfold tfhdFlags
  rw [UInt32.toNat_or, UInt32.toNat_and]
  apply Nat.or_lt_two_pow
  · generalize tfhd.baseDataOffset.isSome = offset, tfhd.defaultSampleDuration.isSome = duration,
      tfhd.defaultSampleFlags.isSome = flags, tfhd.defaultSampleSize.isSome = size
    revert offset duration flags size
    decide
  · exact Nat.lt_of_le_of_lt Nat.and_le_right (by decide)

theorem retagTfhd_valid_iff (tfhd : Tfhd) (version : tfhd.header.version = 0)
    (flagsValid : Trun.validateFlags tfhd.defaultSampleFlags = .ok ()) :
    (retagTfhd tfhd).validate = .ok () ↔ tfhd.sampleDescriptionIndex = none := by
  obtain ⟨offset, index, duration, size, flags⟩ := hasFlag_tfhdFlags tfhd
  rw [Tfhd.validate_eq_ok]
  constructor
  · intro valid
    have absent := valid.sampleDescriptionIndex.symm.trans index
    rwa [Option.isSome_eq_false_iff, Option.isNone_iff_eq_none] at absent
  · intro absent
    exact {
      version := version
      baseDataOffset := offset
      sampleDescriptionIndex := index.trans (by
        change false = tfhd.sampleDescriptionIndex.isSome
        rw [absent]
        rfl)
      defaultSampleDuration := duration
      defaultSampleSize := size
      defaultSampleFlags := flags
      flagsValid := flagsValid }

/-! ### What the passes leave of the fields -/

/-- What the passes keep of a header and a run, besides their meaning. -/
structure Kept (tfhd : Tfhd) (trun : Trun) (next : Tfhd × Trun) : Prop where
  header : next.1.header = tfhd.header
  sampleDescriptionIndex : next.1.sampleDescriptionIndex = tfhd.sampleDescriptionIndex
  flagsValid : Trun.validateFlags next.1.defaultSampleFlags = .ok ()
  runHeader : next.2.header = trun.header
  sound : Sound next.2

section Fields

variable {tfhd : Tfhd} {trun : Trun}

/-- The offsets of the samples, where they carry one. -/
def offsets (trun : Trun) : List (Option Int64) := trun.samples.map (·.compositionTimeOffset)

theorem offsets_map (change : TrunSample → TrunSample)
    (same : ∀ sample, (change sample).compositionTimeOffset = sample.compositionTimeOffset) :
    offsets { trun with samples := trun.samples.map change } = offsets trun := by
  unfold offsets
  rw [List.map_map]
  exact List.map_congr_left fun sample _ => same sample

theorem forall_mem_map {property : TrunSample → Prop} {samples : List TrunSample}
    {change : TrunSample → TrunSample} (holds : ∀ sample ∈ samples, property (change sample)) :
    ∀ sample ∈ samples.map change, property sample := by
  intro sample member
  obtain ⟨original, within, rfl⟩ := List.mem_map.mp member
  exact holds original within

theorem kept_optimizeFlags (flagsValid : Trun.validateFlags tfhd.defaultSampleFlags = .ok ())
    (sound : Sound trun) :
    Kept tfhd trun (optimizeFlags tfhd trun) ∧
      offsets (optimizeFlags tfhd trun).2 = offsets trun := by
  rcases optimizeFlags_cases tfhd trun with same | ⟨first, second, rest, found, _, _, changed⟩
  · rw [same]
    exact ⟨⟨rfl, rfl, flagsValid, rfl, sound⟩, rfl⟩
  · have valid := sound.flagsValid
    rw [found] at valid
    have firstValid := valid first List.mem_cons_self
    have secondValid := valid second (List.mem_cons_of_mem _ List.mem_cons_self)
    rw [changed]
    refine ⟨⟨rfl, rfl, secondValid, rfl, ?_⟩, offsets_map _ fun _ => rfl⟩
    exact {
      version := sound.version
      duration := Uniform.map sound.duration
      size := Uniform.map sound.size
      flags := Uniform.map Uniform.none
      compositionTimeOffset := Uniform.map sound.compositionTimeOffset
      signedRange := fun one => forall_mem_map (sound.signedRange one)
      unsignedRange := fun zero => forall_mem_map (sound.unsignedRange zero)
      firstSampleFlagsValid := by
        dsimp only
        split
        · exact firstValid
        · exact sound.firstSampleFlagsValid
      flagsValid := forall_mem_map fun _ _ => rfl }

theorem sound_optimizeOffsets (sound : Sound trun) :
    (optimizeOffsets trun).header = trun.header ∧ Sound (optimizeOffsets trun) := by
  rcases optimizeOffsets_cases trun with ⟨_, same⟩ | ⟨_, changed⟩
  · rw [same]
    exact ⟨rfl, sound⟩
  · rw [changed]
    refine ⟨rfl, ?_⟩
    exact {
      version := sound.version
      duration := Uniform.map sound.duration
      size := Uniform.map sound.size
      flags := Uniform.map sound.flags
      compositionTimeOffset := Uniform.map Uniform.none
      signedRange := fun _ => forall_mem_map fun _ _ => nofun
      unsignedRange := fun _ => forall_mem_map fun _ _ => nofun
      firstSampleFlagsValid := sound.firstSampleFlagsValid
      flagsValid := forall_mem_map sound.flagsValid }

theorem kept_optimizeDuration (flagsValid : Trun.validateFlags tfhd.defaultSampleFlags = .ok ())
    (sound : Sound trun) :
    Kept tfhd trun (optimizeDuration tfhd trun) ∧
      offsets (optimizeDuration tfhd trun).2 = offsets trun := by
  rcases optimizeDuration_cases tfhd trun with same | ⟨_, _, _, changed⟩
  · rw [same]
    exact ⟨⟨rfl, rfl, flagsValid, rfl, sound⟩, rfl⟩
  · rw [changed]
    refine ⟨⟨rfl, rfl, flagsValid, rfl, ?_⟩, offsets_map _ fun _ => rfl⟩
    exact {
      version := sound.version
      duration := Uniform.map Uniform.none
      size := Uniform.map sound.size
      flags := Uniform.map sound.flags
      compositionTimeOffset := Uniform.map sound.compositionTimeOffset
      signedRange := fun one => forall_mem_map (sound.signedRange one)
      unsignedRange := fun zero => forall_mem_map (sound.unsignedRange zero)
      firstSampleFlagsValid := sound.firstSampleFlagsValid
      flagsValid := forall_mem_map sound.flagsValid }

theorem kept_optimizeSize (flagsValid : Trun.validateFlags tfhd.defaultSampleFlags = .ok ())
    (sound : Sound trun) :
    Kept tfhd trun (optimizeSize tfhd trun) ∧
      offsets (optimizeSize tfhd trun).2 = offsets trun := by
  rcases optimizeSize_cases tfhd trun with same | ⟨_, _, _, changed⟩
  · rw [same]
    exact ⟨⟨rfl, rfl, flagsValid, rfl, sound⟩, rfl⟩
  · rw [changed]
    refine ⟨⟨rfl, rfl, flagsValid, rfl, ?_⟩, offsets_map _ fun _ => rfl⟩
    exact {
      version := sound.version
      duration := Uniform.map sound.duration
      size := Uniform.map Uniform.none
      flags := Uniform.map sound.flags
      compositionTimeOffset := Uniform.map sound.compositionTimeOffset
      signedRange := fun one => forall_mem_map (sound.signedRange one)
      unsignedRange := fun zero => forall_mem_map (sound.unsignedRange zero)
      firstSampleFlagsValid := sound.firstSampleFlagsValid
      flagsValid := forall_mem_map sound.flagsValid }

theorem unshifted_iff {trun : Trun} : Unshifted trun ↔ ∀ offset ∈ offsets trun, offset = some 0 := by
  rw [offsets, List.forall_mem_map]
  rfl

theorem offsets_optimizeOffsets :
    offsets (optimizeOffsets trun) =
      if Unshifted trun then trun.samples.map fun _ => none else offsets trun := by
  rcases optimizeOffsets_cases trun with ⟨shifted, same⟩ | ⟨zero, changed⟩
  · rw [if_neg shifted, same]
  · rw [if_pos zero, changed, offsets, List.map_map]
    rfl

/-- The passes keep what validity needs, and lose the offsets only where all of them
are zero. -/
theorem kept_optimizeRun (flagsValid : Trun.validateFlags tfhd.defaultSampleFlags = .ok ())
    (sound : Sound trun) :
    Kept tfhd trun (optimizeRun tfhd trun) ∧
      offsets (optimizeRun tfhd trun).2 =
        if Unshifted trun then trun.samples.map fun _ => none else offsets trun := by
  obtain ⟨flags, flagsOffsets⟩ := kept_optimizeFlags flagsValid sound
  obtain ⟨offsetsHeader, offsetsSound⟩ := sound_optimizeOffsets flags.sound
  obtain ⟨duration, durationOffsets⟩ := kept_optimizeDuration flags.flagsValid offsetsSound
  obtain ⟨size, sizeOffsets⟩ := kept_optimizeSize duration.flagsValid duration.sound
  have unshifted : Unshifted (optimizeFlags tfhd trun).2 ↔ Unshifted trun := by
    rw [unshifted_iff, unshifted_iff, flagsOffsets]
  have lost : ((optimizeFlags tfhd trun).2.samples.map fun _ => (none : Option Int64)) =
      trun.samples.map fun _ => none := by
    have lengths := congrArg List.length flagsOffsets
    rw [offsets, offsets, List.length_map, List.length_map] at lengths
    rw [List.map_const', List.map_const', lengths]
  constructor
  · exact {
      header := size.header.trans (duration.header.trans flags.header)
      sampleDescriptionIndex := size.sampleDescriptionIndex.trans
        (duration.sampleDescriptionIndex.trans flags.sampleDescriptionIndex)
      flagsValid := size.flagsValid
      runHeader := size.runHeader.trans
        (duration.runHeader.trans (offsetsHeader.trans flags.runHeader))
      sound := size.sound }
  · calc offsets (optimizeRun tfhd trun).2
        = offsets (optimizeOffsets (optimizeFlags tfhd trun).2) :=
          sizeOffsets.trans durationOffsets
      _ = _ := by
          rw [offsets_optimizeOffsets, if_congr unshifted lost flagsOffsets]

/-- A valid run of version 1 has its offsets afterwards unless all of them were
zero. -/
theorem firstOffset_optimizeRun (flagsValid : Trun.validateFlags tfhd.defaultSampleFlags = .ok ())
    (valid : trun.Valid) (nonempty : trun.samples ≠ []) (one : trun.header.version = 1) :
    ((optimizeRun tfhd trun).2.samples.head?.bind (·.compositionTimeOffset)).isSome = true ↔
      ¬Unshifted trun := by
  have first : ((optimizeRun tfhd trun).2.samples.head?.bind (·.compositionTimeOffset)) =
      (offsets (optimizeRun tfhd trun).2).head?.join := by
    rw [offsets, List.head?_map]
    cases (optimizeRun tfhd trun).2.samples.head? <;> rfl
  obtain ⟨head, rest, found⟩ := List.exists_cons_of_ne_nil nonempty
  have announced := valid.compositionTimeOffset head (by rw [found]; exact List.mem_cons_self)
  rw [valid.signed one] at announced
  rw [first, (kept_optimizeRun flagsValid (Sound.of_valid valid)).2]
  by_cases unshifted : Unshifted trun
  · rw [if_pos unshifted, found]
    simp [unshifted]
  · rw [if_neg unshifted, offsets, found]
    simpa [unshifted] using announced.symm

end Fields

/-! ### Writing an optimized fragment -/

/-- What an optimized fragment needs to be valid: no description index, and no run of
version 1 in which every offset is zero. -/
def Optimizable (traf : Traf Unknown) : Prop :=
  ∀ trun, traf.trun = some trun → trun.samples ≠ [] →
    traf.tfhd.sampleDescriptionIndex = none ∧
      ¬(trun.header.version = 1 ∧ Unshifted trun)

/-- The two boxes of a track fragment that optimizing changes pass their checks. -/
def Accepted (traf : Traf Unknown) : Prop :=
  traf.tfhd.validate = .ok () ∧ ∀ trun, traf.trun = some trun → trun.validate = .ok ()

theorem accepted_optimize_iff {traf : Traf Unknown} (accepted : Accepted traf) :
    Accepted traf.optimize ↔ Optimizable traf := by
  rcases optimize_cases traf with ⟨empty, same⟩ | ⟨trun, found, nonempty, changed⟩
  · rw [same]
    constructor
    · intro _ trun found samples
      exact absurd (empty trun found) samples
    · intro _
      exact accepted
  · have header := Tfhd.validate_eq_ok.mp accepted.1
    have valid := Trun.validate_eq_ok.mp (accepted.2 trun found)
    obtain ⟨kept, _⟩ := kept_optimizeRun header.flagsValid (Sound.of_valid valid)
    have version : (optimizeRun traf.tfhd trun).1.header.version = 0 := by
      rw [kept.header]
      exact header.version
    have tfhdValid := retagTfhd_valid_iff _ version kept.flagsValid
    have trunValid := retagTrun_valid_iff _ kept.sound
    rw [kept.sampleDescriptionIndex] at tfhdValid
    rw [kept.runHeader] at trunValid
    have run : (retagTrun (optimizeRun traf.tfhd trun).2).validate = .ok () ↔
        ¬(trun.header.version = 1 ∧ Unshifted trun) := by
      rw [trunValid, not_and]
      constructor
      · intro signed one
        exact (firstOffset_optimizeRun header.flagsValid valid nonempty one).mp (signed one)
      · intro shifted one
        exact (firstOffset_optimizeRun header.flagsValid valid nonempty one).mpr (shifted one)
    rw [changed, Accepted, tfhdValid]
    simp only [Option.some.injEq, forall_eq']
    rw [run]
    constructor
    · rintro both other same _
      rw [found] at same
      cases same
      exact both
    · intro optimizable
      exact optimizable trun found nonempty

theorem mux_tfhd_ok {tfhd : Tfhd} (valid : tfhd.validate = .ok ())
    (small : tfhd.header.flags.toNat < 2 ^ 24) : ∃ bytes, BoxType.mux tfhd = .ok bytes :=
  ⟨_, (Tfhd.written valid small).mux⟩

theorem mux_trun_ok {trun : Trun} (valid : trun.validate = .ok ())
    (small : trun.header.flags.toNat < 2 ^ 24) : ∃ bytes, muxOption (some trun) = .ok bytes :=
  ⟨_, (Trun.written (Trun.validate_eq_ok.mp valid) small).mux⟩

/-- A track fragment is written exactly when all of its boxes are. -/
theorem mux_eq_ok_iff {traf : Traf DynBox} :
    (∃ bytes, BoxType.mux traf = .ok bytes) ↔
      (∃ bytes, BoxType.mux traf.tfhd = .ok bytes) ∧
      (∃ bytes, muxOption traf.sbgp = .ok bytes) ∧ (∃ bytes, muxOption traf.subs = .ok bytes) ∧
      (∃ bytes, muxOption traf.tfdt = .ok bytes) ∧
      (∃ bytes, DynBox.muxAll traf.unknown = .ok bytes) ∧
      ∃ bytes, muxOption traf.trun = .ok bytes := by
  obtain ⟨header, tfhd, trun, sbgp, subs, tfdt, unknown⟩ := traf
  constructor
  · rintro ⟨bytes, written⟩
    obtain ⟨_, _, written⟩ := sequence_eq_ok_iff.mp written
    obtain ⟨payload, inner, _⟩ := sequence_eq_ok_iff.mp written
    change DynBox.primitiveMuxTraf _ = _ at inner
    rw [DynBox.primitiveMuxTraf] at inner
    obtain ⟨first, one, inner⟩ := sequence_eq_ok_iff.mp inner
    obtain ⟨groups, two, inner⟩ := sequence_eq_ok_iff.mp inner
    obtain ⟨subsamples, three, inner⟩ := sequence_eq_ok_iff.mp inner
    obtain ⟨time, four, inner⟩ := sequence_eq_ok_iff.mp inner
    obtain ⟨rest, five, inner⟩ := sequence_eq_ok_iff.mp inner
    obtain ⟨run, six, _⟩ := sequence_eq_ok_iff.mp inner
    exact ⟨⟨first, one⟩, ⟨groups, two⟩, ⟨subsamples, three⟩, ⟨time, four⟩, ⟨rest, five⟩, ⟨run, six⟩⟩
  · rintro ⟨⟨first, one⟩, ⟨groups, two⟩, ⟨subsamples, three⟩, ⟨time, four⟩, ⟨rest, five⟩, ⟨run, six⟩⟩
    have payload : DynBox.primitiveMuxTraf ⟨header, tfhd, trun, sbgp, subs, tfdt, unknown⟩ =
        .ok (first ++ groups ++ subsamples ++ time ++ rest ++ run) := by
      rw [DynBox.primitiveMuxTraf, one, two, three, four, five, six]
      rfl
    exact ⟨_, sequence_eq_ok_iff.mpr ⟨(), rfl, sequence_eq_ok_iff.mpr ⟨_, payload, rfl⟩⟩⟩

/-- A fragment whose optimized boxes pass their checks is written if it was written
before. -/
theorem mux_optimize {traf : Traf DynBox} (valid : Accepted traf.optimize)
    (written : ∃ bytes, BoxType.mux traf = .ok bytes) :
    ∃ bytes, BoxType.mux traf.optimize = .ok bytes := by
  rcases optimize_cases traf with ⟨_, same⟩ | ⟨trun, _, _, changed⟩
  · rw [same]
    exact written
  · obtain ⟨_, groups, subsamples, time, rest, _⟩ := mux_eq_ok_iff.mp written
    rw [changed] at valid ⊢
    obtain ⟨_, _, _, _, _, _, small⟩ := hasFlag_trunFlags (optimizeRun traf.tfhd trun).2
    exact mux_eq_ok_iff.mpr ⟨mux_tfhd_ok valid.1 (tfhdFlags_small _), groups, subsamples, time, rest,
      mux_trun_ok (valid.2 _ rfl) small⟩

/-- Optimizing a fragment whose header and run are valid leaves them valid, and the
fragment as writable as it was, exactly when there is no description index and no
run of version 1 whose offsets are all zero. -/
theorem optimize_valid_iff (traf : Traf DynBox) (header : traf.tfhd.validate = .ok ())
    (run : ∀ trun, traf.trun = some trun → trun.validate = .ok ()) :
    (traf.optimize.tfhd.validate = .ok () ∧
        (∀ trun, traf.optimize.trun = some trun → trun.validate = .ok ()) ∧
        ((∃ bytes, BoxType.mux traf = .ok bytes) →
          ∃ bytes, BoxType.mux traf.optimize = .ok bytes)) ↔
      Optimizable traf := by
  rw [← accepted_optimize_iff ⟨header, run⟩]
  constructor
  · rintro ⟨tfhdValid, trunValid, _⟩
    exact ⟨tfhdValid, trunValid⟩
  · intro accepted
    exact ⟨accepted.1, accepted.2, mux_optimize accepted⟩

theorem keyframeTraf_optimize_valid :
    keyframeTraf.optimize.tfhd.validate = .ok () ∧
      (∀ trun, keyframeTraf.optimize.trun = some trun → trun.validate = .ok ()) ∧
      ∃ bytes, BoxType.mux keyframeTraf.optimize = .ok bytes := by
  have run : ∀ trun, keyframeTraf.trun = some trun → trun.validate = .ok () := by
    rintro trun ⟨⟩
    rfl
  have optimizable : Optimizable keyframeTraf := by
    rintro trun ⟨⟩ _
    exact ⟨rfl, fun signed => absurd signed.1 (by decide)⟩
  obtain ⟨tfhdValid, trunValid, written⟩ :=
    (optimize_valid_iff keyframeTraf rfl run).mpr optimizable
  exact ⟨tfhdValid, trunValid, written ⟨_, rfl⟩⟩

/-- A fragment that names its sample description. -/
def describedTraf : Traf DynBox :=
  Traf.new (Tfhd.new 1 none (some 1) none none none) (some keyframeRun) none

/-- Its header and its run are valid, and optimizing it clears the flag of a field that
stays. -/
theorem describedTraf_refused :
    describedTraf.tfhd.validate = .ok () ∧ describedTraf.trun = some keyframeRun ∧
      keyframeRun.validate = .ok () ∧ describedTraf.optimize.tfhd.validate ≠ .ok () := by
  refine ⟨rfl, rfl, rfl, ?_⟩
  intro accepted
  cases accepted

end Traf

end ScuffleVideo.Mp4
