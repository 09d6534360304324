import ScuffleVideo.Mp4.Descriptors
import ScuffleVideo.Mp4.SampleEntries

/-!
# The containers of a movie

Boxes that hold further boxes.  Those of the types that a container knows stand
in fields of their own and all others in the order in which they came, so each
container is a structure over the type of boxes it is part of.
-/

namespace ScuffleVideo.Mp4

open Wire

variable {Unknown : Type}

/-! ## Data references -/

structure Dref (Unknown : Type) where
  header : FullBoxHeader
  entries : List Unknown

namespace Dref

def name : FourCC := .ofChars 'd' 'r' 'e' 'f'

/-- `url` is the entry that stands for the file itself. -/
def new (url : Unknown) : Dref Unknown := ⟨.new name 0 0, [url]⟩

def validate (dref : Dref Unknown) : Except IoFault Unit := dref.header.checkPlain "dref"

end Dref

structure Dinf (Unknown : Type) where
  header : BoxHeader
  dref : Dref Unknown
  unknown : List Unknown

namespace Dinf

def name : FourCC := .ofChars 'd' 'i' 'n' 'f'

def new (url : Unknown) : Dinf Unknown := ⟨⟨name⟩, .new url, []⟩

end Dinf

/-! ## Sample tables -/

structure Stsd (Unknown : Type) where
  header : FullBoxHeader
  entries : List Unknown

namespace Stsd

def name : FourCC := .ofChars 's' 't' 's' 'd'

def new (entries : List Unknown) : Stsd Unknown := ⟨.new name 0 0, entries⟩

def validate (stsd : Stsd Unknown) : Except IoFault Unit := do
  refuse (stsd.header.flags != 0) "stsd flags must be 0"
  refuse (stsd.header.version != 0) "stsd version must be 0"

end Stsd

structure Stbl (Unknown : Type) where
  header : BoxHeader
  stsd : Stsd Unknown
  stts : Stts
  ctts : Option Ctts
  stsc : Stsc
  stsz : Option Stsz
  stz2 : Option Stz2
  stco : Stco
  co64 : Option Co64
  stss : Option Stss
  stsh : Option Stsh
  padb : Option Padb
  stdp : Option Stdp
  sdtp : Option Sdtp
  sbgp : Option Sbgp
  subs : Option Subs
  unknown : List Unknown

namespace Stbl

def name : FourCC := .ofChars 's' 't' 'b' 'l'

def new (stsd : Stsd Unknown) (stts : Stts) (stsc : Stsc) (stco : Stco) (stsz : Option Stsz) :
    Stbl Unknown where
  header := ⟨name⟩
  stsd := stsd
  stts := stts
  ctts := none
  stsc := stsc
  stsz := stsz
  stz2 := none
  stco := stco
  co64 := none
  stss := none
  stsh := none
  padb := none
  stdp := none
  sdtp := none
  sbgp := none
  subs := none
  unknown := []

end Stbl

/-! ## Media -/

structure Minf (Unknown : Type) where
  header : BoxHeader
  vmhd : Option Vmhd
  smhd : Option Smhd
  hmhd : Option Hmhd
  nmhd : Option Nmhd
  dinf : Dinf Unknown
  stbl : Stbl Unknown
  unknown : List Unknown

namespace Minf

def name : FourCC := .ofChars 'm' 'i' 'n' 'f'

def new (url : Unknown) (stbl : Stbl Unknown) (vmhd : Option Vmhd) (smhd : Option Smhd) :
    Minf Unknown :=
  ⟨⟨name⟩, vmhd, smhd, none, none, .new url, stbl, []⟩

end Minf

structure Mdia (Unknown : Type) where
  header : BoxHeader
  mdhd : Mdhd
  hdlr : Hdlr
  minf : Minf Unknown
  unknown : List Unknown

namespace Mdia

def name : FourCC := .ofChars 'm' 'd' 'i' 'a'

def new (mdhd : Mdhd) (hdlr : Hdlr) (minf : Minf Unknown) : Mdia Unknown :=
  ⟨⟨name⟩, mdhd, hdlr, minf, []⟩

end Mdia

/-! ## Tracks -/

structure Edts (Unknown : Type) where
  header : BoxHeader
  elst : Option Elst
  unknown : List Unknown

namespace Edts

def name : FourCC := .ofChars 'e' 'd' 't' 's'

def new (elst : Option Elst) : Edts Unknown := ⟨⟨name⟩, elst, []⟩

end Edts

structure Trak (Unknown : Type) where
  header : BoxHeader
  tkhd : Tkhd
  edts : Option (Edts Unknown)
  mdia : Mdia Unknown
  unknown : List Unknown

namespace Trak

def name : FourCC := .ofChars 't' 'r' 'a' 'k'

def new (tkhd : Tkhd) (edts : Option (Edts Unknown)) (mdia : Mdia Unknown) : Trak Unknown :=
  ⟨⟨name⟩, tkhd, edts, mdia, []⟩

end Trak

/-! ## Movies -/

structure Mvex (Unknown : Type) where
  header : BoxHeader
  trex : List Trex
  mehd : Option Mehd
  unknown : List Unknown

namespace Mvex

def name : FourCC := .ofChars 'm' 'v' 'e' 'x'

def new (trex : List Trex) (mehd : Option Mehd) : Mvex Unknown := ⟨⟨name⟩, trex, mehd, []⟩

end Mvex

structure Moov (Unknown : Type) where
  header : BoxHeader
  mvhd : Mvhd
  traks : List (Trak Unknown)
  mvex : Option (Mvex Unknown)
  unknown : List Unknown

namespace Moov

def name : FourCC := .ofChars 'm' 'o' 'o' 'v'

def new (mvhd : Mvhd) (traks : List (Trak Unknown)) (mvex : Option (Mvex Unknown)) :
    Moov Unknown :=
  ⟨⟨name⟩, mvhd, traks, mvex, []⟩

end Moov

/-! ## Sample entries -/

structure Avc1 (Unknown : Type) where
  header : BoxHeader
  visualSampleEntry : SampleEntry VisualSampleEntry
  avcc : AvcC
  btrt : Option Btrt
  unknown : List Unknown

namespace Avc1

def name : FourCC := .ofChars 'a' 'v' 'c' '1'

def new (visualSampleEntry : SampleEntry VisualSampleEntry) (avcc : AvcC) (btrt : Option Btrt) :
    Avc1 Unknown :=
  ⟨⟨name⟩, visualSampleEntry, avcc, btrt, []⟩

end Avc1

structure Hev1 (Unknown : Type) where
  header : BoxHeader
  visualSampleEntry : SampleEntry VisualSampleEntry
  hvcc : HvcC
  btrt : Option Btrt
  unknown : List Unknown

namespace Hev1

def name : FourCC := .ofChars 'h' 'e' 'v' '1'

def new (visualSampleEntry : SampleEntry VisualSampleEntry) (hvcc : HvcC) (btrt : Option Btrt) :
    Hev1 Unknown :=
  ⟨⟨name⟩, visualSampleEntry, hvcc, btrt, []⟩

end Hev1

structure Av01 (Unknown : Type) where
  header : BoxHeader
  visualSampleEntry : SampleEntry VisualSampleEntry
  av1c : Av1C
  btrt : Option Btrt
  unknown : List Unknown

namespace Av01

def name : FourCC := .ofChars 'a' 'v' '0' '1'

def new (visualSampleEntry : SampleEntry VisualSampleEntry) (av1c : Av1C) (btrt : Option Btrt) :
    Av01 Unknown :=
  ⟨⟨name⟩, visualSampleEntry, av1c, btrt, []⟩

end Av01

structure Mp4a (Unknown : Type) where
  header : BoxHeader
  audioSampleEntry : SampleEntry AudioSampleEntry
  esds : Esds
  btrt : Option Btrt
  unknown : List Unknown

namespace Mp4a

def name : FourCC := .ofChars 'm' 'p' '4' 'a'

def new (audioSampleEntry : SampleEntry AudioSampleEntry) (esds : Esds) (btrt : Option Btrt) :
    Mp4a Unknown :=
  ⟨⟨name⟩, audioSampleEntry, esds, btrt, []⟩

end Mp4a

structure Opus (Unknown : Type) where
  header : BoxHeader
  audioSampleEntry : SampleEntry AudioSampleEntry
  btrt : Option Btrt
  unknown : List Unknown

namespace Opus

def name : FourCC := .ofChars 'O' 'p' 'u' 's'

end Opus

end ScuffleVideo.Mp4
