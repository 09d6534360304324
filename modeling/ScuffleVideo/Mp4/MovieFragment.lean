import ScuffleVideo.Mp4.FragmentBoxes

/-!
# Movie fragments

`moof` and `traf` hold further boxes: those of the types they know in fields of
their own, all others in the order in which they stood.  A track fragment moves
what its samples share to the defaults of its header before it is written.
-/

namespace ScuffleVideo.Mp4

open Wire Wire.Reader

/-! ## Track fragments -/

structure Traf (Unknown : Type) where
  header : BoxHeader
  tfhd : Tfhd
  trun : Option Trun
  sbgp : Option Sbgp
  subs : Option Subs
  tfdt : Option Tfdt
  unknown : List Unknown

namespace Traf

variable {Unknown : Type}

def name : FourCC := .ofChars 't' 'r' 'a' 'f'

def new (tfhd : Tfhd) (trun : Option Trun) (tfdt : Option Tfdt) : Traf Unknown :=
  ⟨⟨name⟩, tfhd, trun, none, none, tfdt, []⟩

/-- Flags shared by all samples after the first move to the track defaults, and
the first sample keeps its own if they differ. -/
def optimizeFlags (tfhd : Tfhd) (trun : Trun) : Tfhd × Trun :=
  match trun.samples with
  | first :: second :: rest =>
      if tfhd.defaultSampleFlags.isNone && rest.all (·.flags == second.flags) then
        ({ tfhd with defaultSampleFlags := second.flags },
          { trun with
            firstSampleFlags :=
              if first.flags != second.flags then first.flags else trun.firstSampleFlags
            samples := trun.samples.map fun sample => { sample with flags := none } })
      else (tfhd, trun)
  | _ => (tfhd, trun)

def optimizeOffsets (trun : Trun) : Trun :=
  if trun.samples.all (·.compositionTimeOffset == some 0) then
    { trun with
      samples := trun.samples.map fun sample => { sample with compositionTimeOffset := none } }
  else trun

def optimizeDuration (tfhd : Tfhd) (trun : Trun) : Tfhd × Trun :=
  match trun.samples with
  | first :: rest =>
      if tfhd.defaultSampleDuration.isNone && rest.all (·.duration == first.duration) then
        ({ tfhd with defaultSampleDuration := first.duration },
          { trun with
            samples := trun.samples.map fun sample => { sample with duration := none } })
      else (tfhd, trun)
  | [] => (tfhd, trun)

def optimizeSize (tfhd : Tfhd) (trun : Trun) : Tfhd × Trun :=
  match trun.samples with
  | first :: rest =>
      if tfhd.defaultSampleSize.isNone && rest.all (·.size == first.size) then
        ({ tfhd with defaultSampleSize := first.size },
          { trun with samples := trun.samples.map fun sample => { sample with size := none } })
      else (tfhd, trun)
  | [] => (tfhd, trun)

/-- The run's flags, taken anew from what it and its first sample carry. -/
def trunFlags (trun : Trun) : UInt32 :=
  flagIf trun.dataOffset.isSome Trun.flagDataOffset |||
    flagIf trun.firstSampleFlags.isSome Trun.flagFirstSampleFlags |||
    flagIf (trun.samples.head?.bind (·.duration)).isSome Trun.flagSampleDuration |||
    flagIf (trun.samples.head?.bind (·.size)).isSome Trun.flagSampleSize |||
    flagIf (trun.samples.head?.bind (·.flags)).isSome Trun.flagSampleFlags |||
    flagIf (trun.samples.head?.bind (·.compositionTimeOffset)).isSome
      Trun.flagSampleCompositionTimeOffset

/-- The header's flags, taken anew from its defaults.  Only the base flag is kept
from before. -/
def tfhdFlags (tfhd : Tfhd) : UInt32 :=
  flagIf tfhd.baseDataOffset.isSome Tfhd.baseDataOffsetFlag |||
    flagIf tfhd.defaultSampleDuration.isSome Tfhd.defaultSampleDurationFlag |||
    flagIf tfhd.defaultSampleFlags.isSome Tfhd.defaultSampleFlagsFlag |||
    flagIf tfhd.defaultSampleSize.isSome Tfhd.defaultSampleSizeFlag |||
    tfhd.header.flags &&& Tfhd.defaultBaseIsMoofFlag

def optimize (traf : Traf Unknown) : Traf Unknown :=
  match traf.trun with
  | none => traf
  | some trun =>
      if trun.samples.isEmpty then traf
      else
        let (tfhd, trun) := optimizeFlags traf.tfhd trun
        let trun := optimizeOffsets trun
        let (tfhd, trun) := optimizeDuration tfhd trun
        let (tfhd, trun) := optimizeSize tfhd trun
        { traf with
          tfhd := { tfhd with header := { tfhd.header with flags := tfhdFlags tfhd } }
          trun := some { trun with header := { trun.header with flags := trunFlags trun } } }

def isKeyframe (flags : TrunSampleFlag) : Bool := flags.sampleDependsOn == 2

/-- The flags given apart are looked at for themselves, and each sample for its own
flags or else the track's. -/
def containsKeyframe (traf : Traf Unknown) : Bool :=
  match traf.trun with
  | none => false
  | some trun =>
      trun.firstSampleFlags.any isKeyframe ||
        trun.samples.any fun sample =>
          (sample.flags.or traf.tfhd.defaultSampleFlags).any isKeyframe

end Traf

/-! ## Movie fragments -/

structure Moof (Unknown : Type) where
  header : BoxHeader
  mfhd : Mfhd
  traf : List (Traf Unknown)
  unknown : List Unknown

namespace Moof

variable {Unknown : Type}

def name : FourCC := .ofChars 'm' 'o' 'o' 'f'

def new (mfhd : Mfhd) (traf : List (Traf Unknown)) : Moof Unknown := ⟨⟨name⟩, mfhd, traf, []⟩

end Moof

end ScuffleVideo.Mp4
