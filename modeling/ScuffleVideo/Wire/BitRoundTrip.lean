import ScuffleVideo.Wire.BitReader
import ScuffleVideo.Wire.BitWriter

/-!
# Bits written and read back

A sequence of writes lays out bits: single ones, numbers of a given width, bytes
at any place, and zeros up to the next byte boundary.  The finished bytes are that
layout filled up with zeros, and the matching sequence of reads returns what was
written.
-/

namespace ScuffleVideo.Wire

/-- A write, and the read that matches it. -/
inductive BitOperation where
  | bit (value : Bool)
  | bits (number : UInt64) (count : Nat)
  | bytes (data : Bytes)
  | align
  deriving DecidableEq, Repr

/-- What a read returns. -/
inductive BitResult where
  | bit (value : Bool)
  | bits (number : UInt64)
  | bytes (data : Bytes)
  | aligned
  deriving DecidableEq, Repr

/-- Bits filled up with zeros to whole bytes. -/
def padded (bits : List Bool) : List Bool :=
  bits ++ List.replicate ((8 - bits.length % 8) % 8) false

theorem length_padded (bits : List Bool) : (padded bits).length = (bits.length + 7) / 8 * 8 := by
  rw [padded, List.length_append, List.length_replicate]
  omega

namespace BitOperation

def write : BitOperation → BitWriting
  | .bit value => BitWriting.writeBit value
  | .bits number count => BitWriting.writeBits number count
  | .bytes data => BitWriting.writeAll data
  | .align => BitWriting.align

def writeSequence : List BitOperation → BitWriting
  | [] => pure ()
  | operation :: operations => do
      operation.write
      writeSequence operations

/-- Reading bytes is a read into a buffer of their number. -/
def read : BitOperation → BitReader BitResult
  | .bit _ => do return .bit (← BitReader.readBit)
  | .bits _ count => do return .bits (← BitReader.readBits count)
  | .bytes data => do return .bytes (← BitReader.read data.length)
  | .align => do
      BitReader.align
      return .aligned

def readSequence : List BitOperation → BitReader (List BitResult)
  | [] => pure []
  | operation :: operations => do
      let result ← operation.read
      let results ← readSequence operations
      return result :: results

/-- What the matching read has to return. -/
def result : BitOperation → BitResult
  | .bit value => .bit value
  | .bits number _ => .bits number
  | .bytes data => .bytes data
  | .align => .aligned

/-- A number has at most 64 bits and fits its width. -/
def Writable : BitOperation → Prop
  | .bits number count => count ≤ 64 ∧ number.toNat < 2 ^ count
  | _ => True

/-- The layout after one more write. -/
def appendTo (bits : List Bool) : BitOperation → List Bool
  | .bit value => bits ++ [value]
  | .bits number count => bits ++ toBits count number.toNat
  | .bytes data => bits ++ bytesBits data
  | .align => padded bits

/-- The bits of a sequence of writes, the padding of its alignments included. -/
def layout (operations : List BitOperation) : List Bool := operations.foldl appendTo []

theorem appendTo_extends (bits : List Bool) (operation : BitOperation) :
    ∃ more, operation.appendTo bits = bits ++ more := by
  cases operation with
  | bit value => exact ⟨_, rfl⟩
  | bits number count => exact ⟨_, rfl⟩
  | bytes data => exact ⟨_, rfl⟩
  | align => exact ⟨_, rfl⟩

theorem foldl_extends (operations : List BitOperation) (bits : List Bool) :
    ∃ more, operations.foldl appendTo bits = bits ++ more := by
  induction operations generalizing bits with
  | nil => exact ⟨[], (List.append_nil bits).symm⟩
  | cons operation operations ih =>
      obtain ⟨first, one⟩ := operation.appendTo_extends bits
      obtain ⟨rest, others⟩ := ih (operation.appendTo bits)
      exact ⟨first ++ rest, by rw [List.foldl_cons, others, one, List.append_assoc]⟩

/-! ## Writing -/

theorem length_bits (writer : BitWriter) :
    writer.bits.length = 8 * writer.written.length + writer.bitPos := by
  rw [BitWriter.bits, List.length_append, length_bytesBits, length_toBits]

theorem write_spec {operation : BitOperation} (writable : operation.Writable) {writer : BitWriter}
    (started : writer.bitPos < 8) :
    ∃ next, operation.write writer = .ok ((), next) ∧ next.bitPos < 8 ∧
      next.bits = operation.appendTo writer.bits := by
  have emitted {action : BitWriting} {condition : Prop} {bits : List Bool}
      (emits : BitWriting.Emits action condition bits) (holds : condition) :
      ∃ next, action writer = .ok ((), next) ∧ next.bitPos < 8 ∧ next.bits = writer.bits ++ bits := by
    rcases emits writer started with ⟨_, next, done, appended, inside⟩ | ⟨fails, _⟩
    · exact ⟨next, done, inside, appended⟩
    · exact absurd holds fails
  cases operation with
  | bit value => exact emitted (BitWriting.Emits.writeBit value) trivial
  | bits number count => exact emitted (BitWriting.Emits.writeBits number writable.1) writable.2
  | bytes data => exact emitted (BitWriting.Emits.writeAll data) trivial
  | align =>
      obtain ⟨next, done, aligned, appended⟩ := BitWriting.align_bits started
      refine ⟨next, done, by omega, ?_⟩
      rw [appended, appendTo, padded, length_bits,
        show (8 * writer.written.length + writer.bitPos) % 8 = writer.bitPos by omega]

theorem writeSequence_spec {operations : List BitOperation}
    (writable : ∀ operation ∈ operations, operation.Writable) {writer : BitWriter}
    (started : writer.bitPos < 8) :
    ∃ next, writeSequence operations writer = .ok ((), next) ∧ next.bitPos < 8 ∧
      next.bits = operations.foldl appendTo writer.bits := by
  induction operations generalizing writer with
  | nil => exact ⟨writer, rfl, started, rfl⟩
  | cons operation operations ih =>
      rw [List.forall_mem_cons] at writable
      obtain ⟨middle, first, inside, appended⟩ := write_spec writable.1 started
      obtain ⟨next, rest, last, all⟩ := ih writable.2 inside
      refine ⟨next, ?_, last, ?_⟩
      · change (operation.write writer >>= fun pair => writeSequence operations pair.2) = _
        rw [first]
        exact rest
      · rw [all, appended, List.foldl_cons]

/-- The finished bytes are the layout, filled up to whole bytes. -/
theorem finish_spec {operations : List BitOperation}
    (writable : ∀ operation ∈ operations, operation.Writable) :
    ∃ bytes, BitWriting.finish (writeSequence operations) = .ok bytes ∧
      bytesBits bytes = padded (layout operations) := by
  obtain ⟨writer, written, inside, laid⟩ :=
    writeSequence_spec writable (show BitWriter.new.bitPos < 8 by decide)
  obtain ⟨last, filled, aligned, appended⟩ := BitWriting.align_bits inside
  refine ⟨last.written, ?_, ?_⟩
  · change ((writeSequence operations BitWriter.new >>= fun pair =>
      BitWriting.align pair.2) >>= fun pair => pure pair.2.written) = _
    rw [written]
    change (BitWriting.align writer >>= fun pair => pure pair.2.written) = _
    rw [filled]
    rfl
  · have whole : last.bits = bytesBits last.written := by
      rw [BitWriter.bits, aligned]
      exact List.append_nil _
    have place := length_bits writer
    rw [← whole, appended, laid, padded]
    change layout operations ++ _ = layout operations ++ _
    rw [show writer.bits = layout operations from laid] at place
    rw [place, show (8 * writer.written.length + writer.bitPos) % 8 = writer.bitPos by omega]

/-! ## Reading -/

open BitReader in
/-- The bits that stand behind others. -/
theorem slice_of_append {buffer : Bytes} {before bits rest : List Bool}
    (whole : bytesBits buffer = before ++ bits ++ rest) :
    Enough buffer before.length bits.length ∧
      slice buffer before.length bits.length = bits := by
  constructor
  · right
    rw [← length_bytesBits, whole]
    simp only [List.length_append]
    omega
  · rw [slice, whole, List.append_assoc, List.drop_left, List.take_left]

open BitReader in
theorem read_spec {operation : BitOperation} (writable : operation.Writable) {buffer : Bytes}
    {before rest : List Bool} (whole : bytesBits buffer = operation.appendTo before ++ rest)
    {position : Nat} {state : BitState}
    (standing : Standing buffer position state before.length) :
    ∃ next stop, operation.read state buffer position = .ok ((operation.result, next), stop) ∧
      Standing buffer stop next (operation.appendTo before).length := by
  have taken {α : Type} {reader : BitReader α} {bits : List Bool} {means : List Bool → α}
      (takes : Takes reader bits.length means) (appended : operation.appendTo before = before ++ bits) :
      ∃ next stop, reader state buffer position = .ok ((means bits, next), stop) ∧
        Standing buffer stop next (operation.appendTo before).length := by
    rw [appended] at whole ⊢
    obtain ⟨enough, found⟩ := slice_of_append whole
    rcases takes _ _ _ _ standing with ⟨_, next, stop, done, there⟩ | ⟨short, _⟩
    · rw [found] at done
      rw [List.length_append]
      exact ⟨next, stop, done, there⟩
    · exact absurd enough short
  have mapped {α : Type} {reader : BitReader α} {make : α → BitResult} {value : α}
      {next : BitState} {stop : Nat} (done : reader state buffer position = .ok ((value, next), stop)) :
      (do return make (← reader) : BitReader BitResult) state buffer position =
        .ok ((make value, next), stop) := by
    change (reader state >>= fun pair => pure (make pair.1, pair.2)) buffer position = _
    rw [Reader.bind_ok done]
    rfl
  cases operation with
  | bit value =>
      obtain ⟨next, stop, done, there⟩ := @taken _ _ [value] _ Takes.readBit rfl
      exact ⟨next, stop, mapped done, there⟩
  | bits number count =>
      have takes := Takes.readBits count
      rw [Nat.min_eq_left writable.1] at takes
      obtain ⟨next, stop, done, there⟩ := @taken _ _ (toBits count number.toNat) _
        (by rw [length_toBits]; exact takes) rfl
      rw [ofBits_toBits, Nat.mod_eq_of_lt writable.2, UInt64.ofNat_toNat] at done
      exact ⟨next, stop, mapped done, there⟩
  | bytes data =>
      change bytesBits buffer = before ++ bytesBits data ++ rest at whole
      obtain ⟨enough, found⟩ := slice_of_append whole
      rw [length_bytesBits] at enough found
      rcases BitReader.read_spec standing data.length with
        ⟨bytes, next, stop, done, size, same, there⟩ | ⟨short, _⟩
      · have all : bytes.length = data.length := by
          unfold Enough at enough
          rw [size]
          omega
        rw [all, found] at same
        rw [bytesBits_injective same] at done there
        refine ⟨next, stop, mapped done, ?_⟩
        rw [appendTo, List.length_append, length_bytesBits]
        exact there
      · exact absurd enough short
  | align =>
      obtain ⟨next, done, there⟩ := align_spec standing
      refine ⟨next, position, ?_, ?_⟩
      · change (BitReader.align state >>= fun pair => pure (BitResult.aligned, pair.2))
          buffer position = _
        rw [Reader.bind_ok done]
        rfl
      · rw [appendTo, length_padded]
        exact there

open BitReader in
theorem readSequence_spec {operations : List BitOperation}
    (writable : ∀ operation ∈ operations, operation.Writable) {buffer : Bytes}
    {before rest : List Bool} (whole : bytesBits buffer = operations.foldl appendTo before ++ rest)
    {position : Nat} {state : BitState}
    (standing : Standing buffer position state before.length) :
    ∃ next stop, readSequence operations state buffer position =
      .ok ((operations.map result, next), stop) := by
  induction operations generalizing before position state with
  | nil => exact ⟨state, position, rfl⟩
  | cons operation operations ih =>
      rw [List.forall_mem_cons] at writable
      obtain ⟨more, extended⟩ := foldl_extends operations (operation.appendTo before)
      have first : bytesBits buffer = operation.appendTo before ++ (more ++ rest) := by
        rw [whole, List.foldl_cons, extended, List.append_assoc]
      obtain ⟨middle, reached, done, there⟩ := read_spec writable.1 first standing
      obtain ⟨next, stop, others⟩ := ih writable.2 whole there
      refine ⟨next, stop, ?_⟩
      change (operation.read state >>= fun pair => readSequence operations pair.2 >>= fun rest =>
        pure (pair.1 :: rest.1, rest.2)) buffer position = _
      rw [Reader.bind_ok done]
      change (readSequence operations middle >>= fun rest =>
        pure (operation.result :: rest.1, rest.2)) buffer reached = _
      rw [Reader.bind_ok others]
      rfl

/-- Any sequence of writes of numbers that fit finishes with the bits of its layout,
filled up with zeros to whole bytes, and the matching reads return what was
written. -/
theorem read_write (operations : List BitOperation)
    (writable : ∀ operation ∈ operations, operation.Writable) :
    ∃ bytes, BitWriting.finish (writeSequence operations) = .ok bytes ∧
      bytesBits bytes = padded (layout operations) ∧
      bytes.length = ((layout operations).length + 7) / 8 ∧
      ∃ state stop, (BitReader.run (readSequence operations)) bytes 0 =
        .ok ((operations.map result, state), stop) := by
  obtain ⟨bytes, finished, filled⟩ := finish_spec writable
  refine ⟨bytes, finished, filled, ?_, ?_⟩
  · have lengths := congrArg List.length filled
    rw [length_bytesBits, length_padded] at lengths
    omega
  · exact @readSequence_spec operations writable bytes [] _ filled 0 ⟨0, 0⟩
      (BitReader.Standing.start bytes)

/-- A flag, a wide number, bytes inside a byte, an alignment and bytes at a boundary. -/
def mixedOperations : List BitOperation :=
  [.bit true, .bits 0xFFFFFFFFFFFFFFFF 64, .bytes [1, 2], .align, .bytes [3], .bits 5 3]

theorem mixedOperations_read_write :
    (∀ operation ∈ mixedOperations, operation.Writable) ∧
      ∃ bytes, BitWriting.finish (writeSequence mixedOperations) = .ok bytes ∧
        bytesBits bytes = padded (layout mixedOperations) ∧
        bytes.length = ((layout mixedOperations).length + 7) / 8 ∧
        ∃ state stop, (BitReader.run (readSequence mixedOperations)) bytes 0 =
          .ok ((mixedOperations.map result, state), stop) := by
  have writable : ∀ operation ∈ mixedOperations, operation.Writable := by
    simp [mixedOperations, Writable]
  exact ⟨writable, read_write mixedOperations writable⟩

end BitOperation

end ScuffleVideo.Wire
