import ScuffleVideo.Mp4.DynBox
import ScuffleVideo.Wire.Crashing

/-!
# Time fields

Times and durations have 64 bits in version 1 of a box and 32 bits in version 0.  A box
whose version has no room for one of its times is refused, so that what is written has
them all.
-/

namespace ScuffleVideo.Mp4

open Wire Wire.Reader

open Tfdt (timeBytes readTime_reads version_eq_zero length_timeBytes)

/-! ## Checks that return -/

theorem not_crashes_refuse (condition : Bool) (message : String) :
    ¬Crashes (refuse condition message) := by
  rintro ⟨fault, failed, crashed⟩
  unfold refuse at failed
  split at failed
  · cases failed
    cases crashed
  · cases failed

theorem not_crashes_andThen {first next : Except IoFault Unit} (head : ¬Crashes first)
    (tail : ¬Crashes next) : ¬Crashes (do first; next) := by
  rw [crashes_sequence]
  rintro (crashed | ⟨_, _, crashed⟩)
  · exact head crashed
  · exact tail crashed

theorem not_crashes_checkTime (header : FullBoxHeader) (time : UInt64) (subject : String) :
    ¬Crashes (checkTime header time subject) := not_crashes_refuse _ _

/-- A time that passes its check has room in a version that is known. -/
theorem room_of_checked {header : FullBoxHeader} {time : UInt64} {subject : String}
    (supported : header.version ≤ 1) (checked : checkTime header time subject = .ok ()) :
    header.version ≠ 1 → time.toNat ≤ u32Max := by
  intro short
  rw [checkTime, refuse_eq_ok, version_eq_zero supported short] at checked
  exact Nat.le_of_not_lt (of_decide_eq_false checked)

/-! ## Refused or kept -/

/-- Writing the box returns an error, or bytes from which the box is read. -/
def RefusedOrKept (checks : OverflowChecks) (box : DynBox) : Prop :=
  (∃ fault, box.mux = .error fault ∧ fault.isReturned = true) ∨
    ∃ bytes, box.mux = .ok bytes ∧ DynBox.demux checks bytes 0 = .ok (box, bytes.length)

/-- For a type without boxes inside it is enough to read what an accepted box has behind its
full header. -/
theorem refusedOrKept_of_reads {β : Type} [BoxType β] [exactSize : ExactSize β]
    (checks : OverflowChecks) {inject : β → DynBox} (kind : BoxKind)
    {read : BoxHeader → Reader IoFault β}
    (plain : ∀ nested header data, DynBox.ofKind checks nested header data kind =
      (do return inject (← BoxType.demux checks header data)))
    (muxed : ∀ box : β, (inject box).mux = BoxType.mux box) (named : BoxType.name β = kind.name)
    (parsed : ∀ header data, BoxType.demux checks header data = (read header).parse data)
    {box : β} {header : FullBoxHeader} {body : Bytes}
    (headed : BoxType.primitiveMux box = do
      let first ← header.mux
      return first ++ body)
    (own : header.header.boxType = kind.name) (small : header.flags.toNat < 2 ^ 24)
    (room : body.length < 2 ^ 32) (returned : ¬Crashes (BoxType.validate box))
    (reads : BoxType.validate box = .ok () →
      Reads (read header.header) (header.bytes ++ body) box) :
    RefusedOrKept checks (inject box) := by
  unfold RefusedOrKept
  rw [muxed]
  cases checked : (BoxType.validate box : Except IoFault Unit) with
  | error fault =>
      refine .inl ⟨fault, ?_, not_crashes_iff.mp returned fault checked⟩
      rw [BoxType.mux, checked]
      rfl
  | ok _ =>
      have written : BoxType.primitiveMux box = .ok (header.bytes ++ body) := by
        rw [headed, FullBoxHeader.mux_eq_ok small]
        rfl
      have sized := exactSize.exact box _ checked written
      have framed := (Written.mk checked written sized.symm).mux
      have short : (header.bytes ++ body).length + 16 < 2 ^ 64 := by
        rw [List.length_append, FullBoxHeader.length_bytes]
        omega
      have typed : header.header = ⟨kind.name⟩ := congrArg BoxHeader.mk own
      have read := (reads checked).parse
      rw [named] at framed
      rw [typed, ← parsed] at read
      refine .inr ⟨_, framed, ?_⟩
      rw [DynBox.demux_frame_plain checks kind plain short, read]
      rfl

/-! ## The boxes -/

namespace Tfdt

theorem not_crashes_validate (tfdt : Tfdt) : ¬Crashes tfdt.validate :=
  not_crashes_andThen (not_crashes_refuse _ _)
    (not_crashes_andThen (not_crashes_refuse _ _) (not_crashes_refuse _ _))

theorem refusedOrKept (checks : OverflowChecks) {tfdt : Tfdt}
    (own : tfdt.header.header.boxType = name) (small : tfdt.header.flags.toNat < 2 ^ 24) :
    RefusedOrKept checks (.tfdt tfdt) := by
  refine refusedOrKept_of_reads checks .tfdt (fun _ _ _ => rfl) (fun _ => rfl) rfl
    (fun _ _ => rfl) rfl own small ?_ tfdt.not_crashes_validate read_reads
  rw [length_timeBytes]
  split <;> omega

end Tfdt

namespace Mehd

theorem not_crashes_validate (mehd : Mehd) : ¬Crashes mehd.validate :=
  not_crashes_andThen (not_crashes_refuse _ _) (not_crashes_checkTime _ _ _)

theorem read_reads {mehd : Mehd} (small : mehd.header.flags.toNat < 2 ^ 24)
    (valid : mehd.validate = .ok ()) :
    Reads (read mehd.header.header)
      (mehd.header.bytes ++ timeBytes mehd.header.version mehd.fragmentDuration) mehd := by
  rw [validate, andThen_eq_ok, refuse_eq_ok] at valid
  have supported := UInt8.not_lt.mp (of_decide_eq_false valid.1)
  apply (FullBoxHeader.demux_reads small).bind
  apply (readTime_reads (room_of_checked supported valid.2)).finish
  exact Reads.pure mehd

theorem refusedOrKept (checks : OverflowChecks) {mehd : Mehd}
    (own : mehd.header.header.boxType = name) (small : mehd.header.flags.toNat < 2 ^ 24) :
    RefusedOrKept checks (.mehd mehd) := by
  refine refusedOrKept_of_reads checks .mehd (fun _ _ _ => rfl) (fun _ => rfl) rfl
    (fun _ _ => rfl) rfl own small ?_ mehd.not_crashes_validate (read_reads small)
  rw [length_timeBytes]
  split <;> omega

end Mehd

namespace Mvhd

theorem not_crashes_validate (mvhd : Mvhd) : ¬Crashes mvhd.validate := by
  unfold validate
  iterate 2 refine not_crashes_andThen (not_crashes_refuse _ _) ?_
  iterate 3 refine not_crashes_andThen (not_crashes_checkTime _ _ _) ?_
  iterate 2 refine not_crashes_andThen (not_crashes_refuse _ _) ?_
  exact not_crashes_refuse _ _

theorem read_reads {mvhd : Mvhd} (small : mvhd.header.flags.toNat < 2 ^ 24)
    (valid : mvhd.validate = .ok ()) :
    Reads (read mvhd.header.header) (mvhd.header.bytes ++ mvhd.body) mvhd := by
  simp only [validate, andThen_eq_ok] at valid
  obtain ⟨_, known, creation, modification, duration, _⟩ := valid
  have supported := UInt8.not_lt.mp (of_decide_eq_false (refuse_eq_ok.mp known))
  unfold body
  apply (FullBoxHeader.demux_reads small).bind
  apply (readTime_reads (room_of_checked supported creation)).bind
  apply (readTime_reads (room_of_checked supported modification)).bind
  apply (Reads.readU32 mvhd.timescale).bind
  apply (readTime_reads (room_of_checked supported duration)).bind
  apply (Reads.readI32 mvhd.rate.bits).bind
  apply (Reads.readI16 mvhd.volume.bits).bind
  apply (Reads.readU16 mvhd.reserved).bind
  apply (Reads.readArray fun number _ => Reads.readU32 number).bind
  apply (Reads.readArray fun number _ => Reads.readU32 number).bind
  apply (Reads.readArray fun number _ => Reads.readU32 number).bind
  apply (Reads.readU32 mvhd.nextTrackId).finish
  exact Reads.pure mvhd

theorem refusedOrKept (checks : OverflowChecks) {mvhd : Mvhd}
    (own : mvhd.header.header.boxType = name) (small : mvhd.header.flags.toNat < 2 ^ 24) :
    RefusedOrKept checks (.mvhd mvhd) := by
  refine refusedOrKept_of_reads checks .mvhd (fun _ _ _ => rfl) (fun _ => rfl) rfl
    (fun _ _ => rfl) rfl own small ?_ mvhd.not_crashes_validate (read_reads small)
  have sized := mvhd.length_body
  unfold primitiveSize at sized
  split at sized <;> omega

end Mvhd

namespace Mdhd

theorem not_crashes_validate (mdhd : Mdhd) : ¬Crashes mdhd.validate := by
  unfold validate
  iterate 2 refine not_crashes_andThen (not_crashes_refuse _ _) ?_
  iterate 3 refine not_crashes_andThen (not_crashes_checkTime _ _ _) ?_
  exact not_crashes_refuse _ _

theorem read_reads {mdhd : Mdhd} (small : mdhd.header.flags.toNat < 2 ^ 24)
    (valid : mdhd.validate = .ok ()) :
    Reads (read mdhd.header.header) (mdhd.header.bytes ++ mdhd.body) mdhd := by
  simp only [validate, andThen_eq_ok] at valid
  obtain ⟨_, known, creation, modification, duration, _⟩ := valid
  have supported := UInt8.not_lt.mp (of_decide_eq_false (refuse_eq_ok.mp known))
  unfold body
  apply (FullBoxHeader.demux_reads small).bind
  apply (readTime_reads (room_of_checked supported creation)).bind
  apply (readTime_reads (room_of_checked supported modification)).bind
  apply (Reads.readU32 mdhd.timescale).bind
  apply (readTime_reads (room_of_checked supported duration)).bind
  apply (Reads.readU16 mdhd.language).bind
  apply (Reads.readU16 mdhd.preDefined).finish
  exact Reads.pure mdhd

theorem refusedOrKept (checks : OverflowChecks) {mdhd : Mdhd}
    (own : mdhd.header.header.boxType = name) (small : mdhd.header.flags.toNat < 2 ^ 24) :
    RefusedOrKept checks (.mdhd mdhd) := by
  refine refusedOrKept_of_reads checks .mdhd (fun _ _ _ => rfl) (fun _ => rfl) rfl
    (fun _ _ => rfl) rfl own small ?_ mdhd.not_crashes_validate (read_reads small)
  have sized := mdhd.length_body
  unfold primitiveSize at sized
  split at sized <;> omega

end Mdhd

namespace Tkhd

theorem not_crashes_validate (tkhd : Tkhd) : ¬Crashes tkhd.validate := by
  unfold validate
  iterate 5 refine not_crashes_andThen (not_crashes_refuse _ _) ?_
  iterate 2 refine not_crashes_andThen (not_crashes_checkTime _ _ _) ?_
  exact not_crashes_checkTime _ _ _

theorem read_reads {tkhd : Tkhd} (small : tkhd.header.flags.toNat < 2 ^ 24)
    (valid : tkhd.validate = .ok ()) :
    Reads (read tkhd.header.header) (tkhd.header.bytes ++ tkhd.body) tkhd := by
  simp only [validate, andThen_eq_ok] at valid
  obtain ⟨known, _, _, _, _, creation, modification, duration⟩ := valid
  have supported := UInt8.not_lt.mp (of_decide_eq_false (refuse_eq_ok.mp known))
  unfold body
  apply (FullBoxHeader.demux_reads small).bind
  apply (readTime_reads (room_of_checked supported creation)).bind
  apply (readTime_reads (room_of_checked supported modification)).bind
  apply (Reads.readU32 tkhd.trackId).bind
  apply (Reads.readU32 tkhd.reserved).bind
  apply (readTime_reads (room_of_checked supported duration)).bind
  apply (Reads.readArray fun number _ => Reads.readU32 number).bind
  apply (Reads.readU16 tkhd.layer).bind
  apply (Reads.readU16 tkhd.alternateGroup).bind
  apply (Reads.readI16 tkhd.volume.bits).bind
  apply (Reads.readU16 tkhd.reserved3).bind
  apply (Reads.readArray fun number _ => Reads.readU32 number).bind
  apply (Reads.readI32 tkhd.width.bits).bind
  apply (Reads.readI32 tkhd.height.bits).finish
  exact Reads.pure tkhd

theorem refusedOrKept (checks : OverflowChecks) {tkhd : Tkhd}
    (own : tkhd.header.header.boxType = name) (small : tkhd.header.flags.toNat < 2 ^ 24) :
    RefusedOrKept checks (.tkhd tkhd) := by
  refine refusedOrKept_of_reads checks .tkhd (fun _ _ _ => rfl) (fun _ => rfl) rfl
    (fun _ _ => rfl) rfl own small ?_ tkhd.not_crashes_validate (read_reads small)
  have sized := tkhd.length_body
  unfold primitiveSize at sized
  split at sized <;> omega

end Tkhd

/-! ## Boxes with times -/

inductive TimeBox where
  | tfdt (box : Tfdt)
  | mehd (box : Mehd)
  | mvhd (box : Mvhd)
  | mdhd (box : Mdhd)
  | tkhd (box : Tkhd)

namespace TimeBox

def toDynBox : TimeBox → DynBox
  | .tfdt box => .tfdt box
  | .mehd box => .mehd box
  | .mvhd box => .mvhd box
  | .mdhd box => .mdhd box
  | .tkhd box => .tkhd box

def kind : TimeBox → BoxKind
  | .tfdt _ => .tfdt
  | .mehd _ => .mehd
  | .mvhd _ => .mvhd
  | .mdhd _ => .mdhd
  | .tkhd _ => .tkhd

def header : TimeBox → FullBoxHeader
  | .tfdt box => box.header
  | .mehd box => box.header
  | .mvhd box => box.header
  | .mdhd box => box.header
  | .tkhd box => box.header

/-- No time is cut short: a box with times of any length is refused with an error, or it is
read from what it is written as. -/
theorem times_refused_or_kept (checks : OverflowChecks) (box : TimeBox)
    (own : box.header.header.boxType = box.kind.name) (small : box.header.flags.toNat < 2 ^ 24) :
    RefusedOrKept checks box.toDynBox := by
  cases box with
  | tfdt tfdt => exact tfdt.refusedOrKept checks own small
  | mehd mehd => exact mehd.refusedOrKept checks own small
  | mvhd mvhd => exact mvhd.refusedOrKept checks own small
  | mdhd mdhd => exact mdhd.refusedOrKept checks own small
  | tkhd tkhd => exact tkhd.refusedOrKept checks own small

/-- A time of 40 bits in a version with 32. -/
theorem long_duration_refused :
    RefusedOrKept .on (.mehd ⟨.new Mehd.name 0 0, 0x10000000000⟩) ∧
      DynBox.mux (.mehd ⟨.new Mehd.name 0 0, 0x10000000000⟩) =
        .error (.invalidData "mehd fragment_duration must be less than 2^32") :=
  ⟨times_refused_or_kept .on (.mehd ⟨.new Mehd.name 0 0, 0x10000000000⟩) rfl (by decide), rfl⟩

end TimeBox

end ScuffleVideo.Mp4
