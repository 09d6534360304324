import ScuffleVideo.Wire.Reader

/-!
# Cursor combinators

Formats built from records add four habits to plain fields: a field present
only under a flag, a counted run of records, a run of records that lasts until
the buffer ends, and a payload cut out and read with a cursor of its own.  Each
comes with the law that says which bytes it consumes.
-/

namespace ScuffleVideo.Wire

/-- How an operation on a cursor or a writer ends other than by returning. -/
inductive IoFault where
  | unexpectedEof
  | invalidData (message : String)
  | panic
  | unfinished
  deriving DecidableEq, Repr

/-- Whether a fault is an error that is returned, and not a panic or a loop that
has not ended. -/
def IoFault.isReturned : IoFault → Bool
  | .unexpectedEof => true
  | .invalidData _ => true
  | .panic => false
  | .unfinished => false

instance : Starving IoFault := ⟨.unexpectedEof⟩

instance : Panicking IoFault := ⟨.panic⟩

/-- A four-character code. -/
structure FourCC where
  first : UInt8
  second : UInt8
  third : UInt8
  fourth : UInt8
  deriving DecidableEq, Repr

namespace FourCC

def ofChars (first second third fourth : Char) : FourCC :=
  ⟨first.toNat.toUInt8, second.toNat.toUInt8, third.toNat.toUInt8, fourth.toNat.toUInt8⟩

def bytes (code : FourCC) : Bytes := [code.first, code.second, code.third, code.fourth]

@[simp]
theorem length_bytes (code : FourCC) : code.bytes.length = 4 := rfl

end FourCC

/-! ## Fields as bytes -/

/-- A four-byte big-endian field. -/
def beU32 (number : UInt32) : Bytes := toBytesBE 4 number.toNat

@[simp]
theorem length_beU32 (number : UInt32) : (beU32 number).length = 4 := length_toBytesBE 4 _

/-- An eight-byte big-endian field. -/
def beU64 (number : UInt64) : Bytes := toBytesBE 8 number.toNat

@[simp]
theorem length_beU64 (number : UInt64) : (beU64 number).length = 8 := length_toBytesBE 8 _

def beI32 (number : Int32) : Bytes := beU32 number.toUInt32

@[simp]
theorem length_beI32 (number : Int32) : (beI32 number).length = 4 := length_beU32 _

/-- A two-byte big-endian field. -/
def beU16 (number : UInt16) : Bytes := toBytesBE 2 number.toNat

@[simp]
theorem length_beU16 (number : UInt16) : (beU16 number).length = 2 := length_toBytesBE 2 _

def beI16 (number : Int16) : Bytes := beU16 number.toUInt16

@[simp]
theorem length_beI16 (number : Int16) : (beI16 number).length = 2 := length_beU16 _

def beI64 (number : Int64) : Bytes := beU64 number.toUInt64

@[simp]
theorem length_beI64 (number : Int64) : (beI64 number).length = 8 := length_beU64 _

/-- The bytes of a field that is written only when it is present. -/
def optional {α : Type} (encode : α → Bytes) : Option α → Bytes
  | none => []
  | some value => encode value

@[simp]
theorem optional_none {α : Type} (encode : α → Bytes) : optional encode none = [] := rfl

@[simp]
theorem optional_some {α : Type} (encode : α → Bytes) (value : α) :
    optional encode (some value) = encode value := rfl

theorem length_optional {α : Type} {encode : α → Bytes} {width : Nat}
    (fixed : ∀ value, (encode value).length = width) (value : Option α) :
    (optional encode value).length = if value.isSome then width else 0 := by
  cases value with
  | none => rfl
  | some inner => exact fixed inner

namespace Reader

variable {ε α β : Type}

/-- Run a reader over a buffer of its own and drop the final position. -/
def parse (reader : Reader ε α) (data : Bytes) : Except ε α :=
  match reader data 0 with
  | .ok (value, _) => .ok value
  | .error fault => .error fault

/-- A computation that reads nothing. -/
def ofExcept : Except ε α → Reader ε α
  | .ok value => pure value
  | .error fault => fail fault

theorem error_of_ofExcept {result : Except ε α} {buffer : Bytes} {position : Nat} {fault : ε}
    (failed : ofExcept result buffer position = .error fault) : result = .error fault := by
  cases result with
  | error earlier =>
      cases failed
      rfl
  | ok value => cases failed

theorem ok_of_ofExcept {result : Except ε α} {buffer : Bytes} {position stop : Nat} {value : α}
    (done : ofExcept result buffer position = .ok (value, stop)) :
    result = .ok value ∧ stop = position := by
  cases result with
  | error fault => cases done
  | ok value =>
      cases done
      exact ⟨rfl, rfl⟩

theorem ok_of_parse {reader : Reader ε α} {data : Bytes} {value : α}
    (done : reader.parse data = .ok value) : ∃ stop, reader data 0 = .ok (value, stop) := by
  unfold parse at done
  cases read : reader data 0 with
  | error fault =>
      rw [read] at done
      cases done
  | ok pair =>
      rw [read] at done
      cases done
      exact ⟨pair.2, rfl⟩

/-- The next `size` bytes.  An empty extraction succeeds at any position. -/
def extractBytes [Starving ε] (size : Nat) : Reader ε Bytes :=
  if size = 0 then pure [] else take size

def extractRemaining : Reader ε Bytes := fun buffer position =>
  .ok (buffer.drop position, max position buffer.length)

/-- The number of bytes behind the position. -/
def remaining : Reader ε Nat := fun buffer position => .ok (buffer.length - position, position)

def optionally (present : Bool) (reader : Reader ε α) : Reader ε (Option α) :=
  if present then do return some (← reader) else pure none

def repeated (reader : Reader ε α) : Nat → Reader ε (List α)
  | 0 => pure []
  | count + 1 => do
      let value ← reader
      let values ← repeated reader count
      return value :: values

theorem length_of_repeated {reader : Reader ε α} {count : Nat} {buffer : Bytes}
    {position stop : Nat} {values : List α}
    (done : repeated reader count buffer position = .ok (values, stop)) :
    values.length = count := by
  induction count generalizing position values with
  | zero =>
      cases done
      rfl
  | succ count ih =>
      obtain ⟨value, middle, _, more⟩ := bind_eq_ok_iff.mp done
      obtain ⟨others, last, rest, same⟩ := bind_eq_ok_iff.mp more
      cases same
      rw [List.length_cons, ih rest]

/-- What every value of a reader has, all values that it returns one after the other have. -/
theorem forall_mem_repeated {reader : Reader ε α} {holds : α → Prop}
    (each : ∀ {buffer position stop value}, reader buffer position = .ok (value, stop) → holds value)
    {count : Nat} {buffer : Bytes} {position stop : Nat} {values : List α}
    (done : repeated reader count buffer position = .ok (values, stop)) :
    ∀ value ∈ values, holds value := by
  induction count generalizing values position with
  | zero =>
      cases done
      exact List.forall_mem_nil _
  | succ count ih =>
      obtain ⟨value, _, read, more⟩ := bind_eq_ok_iff.mp done
      obtain ⟨others, _, rest, same⟩ := bind_eq_ok_iff.mp more
      cases same
      exact List.forall_mem_cons.mpr ⟨each read, ih rest⟩

/-- An array of a fixed number of records. -/
def readArray (reader : Reader ε α) : (count : Nat) → Reader ε (Vector α count)
  | 0 => pure #v[]
  | count + 1 => do
      let values ← readArray reader count
      let value ← reader
      return values.push value

/-- Read records while bytes remain.  A reader that consumes something in each
round needs no more rounds than there are bytes. -/
def whileRemaining (unfinished : ε) (reader : Reader ε α) : Nat → Reader ε (List α)
  | 0 => fun buffer position =>
      if position < buffer.length then .error unfinished else .ok ([], position)
  | rounds + 1 => fun buffer position =>
      if position < buffer.length then
        (do
          let value ← reader
          let values ← whileRemaining unfinished reader rounds
          return value :: values : Reader ε (List α)) buffer position
      else .ok ([], position)

/-- Records until the buffer ends. -/
def untilEnd (unfinished : ε) (reader : Reader ε α) : Reader ε (List α) := fun buffer position =>
  whileRemaining unfinished reader buffer.length buffer position

section Integers

variable [Starving ε]

def readU16 : Reader ε UInt16 := do
  return UInt16.ofNat (← readUint 2)

def readI16 : Reader ε Int16 := do
  return (← readU16).toInt16

def readI32 : Reader ε Int32 := do
  return (← readU32).toInt32

def readI64 : Reader ε Int64 := do
  return (← readU64).toInt64

def readFourCC : Reader ε FourCC := do
  let first ← readU8
  let second ← readU8
  let third ← readU8
  let fourth ← readU8
  return ⟨first, second, third, fourth⟩

end Integers

namespace Reads

theorem parse {reader : Reader ε α} {bytes : Bytes} {value : α}
    (read : Reads reader bytes value) : reader.parse bytes = .ok value := by
  rw [Reader.parse, read.run]

/-- Bytes behind those that a reader consumes do not change what it returns. -/
theorem parse_append {reader : Reader ε α} {bytes : Bytes} {value : α}
    (read : Reads reader bytes value) (rest : Bytes) :
    reader.parse (bytes ++ rest) = .ok value := by
  rw [Reader.parse, read.run_append]

theorem ofExcept {result : Except ε α} {value : α} (done : result = .ok value) :
    Reads (Reader.ofExcept result) [] value := by
  rw [done]
  exact Reads.pure value

theorem extractBytes [Starving ε] {size : Nat} {bytes : Bytes} (length : bytes.length = size) :
    Reads (Reader.extractBytes size : Reader ε Bytes) bytes bytes := by
  unfold Reader.extractBytes
  split
  · rename_i empty
    rw [List.eq_nil_of_length_eq_zero (length.trans empty)]
    exact Reads.pure []
  · exact Reads.take length

theorem optionally {reader : Reader ε α} {encode : α → Bytes} {present : Bool}
    {value : Option α} (shown : present = value.isSome)
    (read : ∀ inner, value = some inner → Reads reader (encode inner) inner) :
    Reads (Reader.optionally present reader) (optional encode value) value := by
  subst shown
  cases value with
  | none => exact Reads.pure none
  | some inner => exact (read inner rfl).map some

theorem repeated {reader : Reader ε α} {encode : α → Bytes} {values : List α}
    (read : ∀ value ∈ values, Reads reader (encode value) value) :
    Reads (Reader.repeated reader values.length) (values.flatMap encode) values := by
  induction values with
  | nil => exact Reads.pure []
  | cons value values ih =>
      rw [List.flatMap_cons]
      apply (read value List.mem_cons_self).bind
      apply (ih fun other member => read other (List.mem_cons_of_mem value member)).finish
      exact Reads.pure (value :: values)

theorem readArray {reader : Reader ε α} {encode : α → Bytes} {count : Nat}
    {values : Vector α count} (read : ∀ value ∈ values.toList, Reads reader (encode value) value) :
    Reads (Reader.readArray reader count) (values.toList.flatMap encode) values := by
  induction count with
  | zero =>
      rw [show values = #v[] from Vector.eq_empty]
      exact Reads.pure #v[]
  | succ count ih =>
      obtain ⟨init, last, rfl⟩ : ∃ init last, values = Vector.push init last :=
        ⟨values.pop, values.back, (Vector.push_pop_back values).symm⟩
      rw [Vector.toList_push] at read
      rw [Vector.toList_push, List.flatMap_append, List.flatMap_singleton]
      apply (ih fun value member => read value (List.mem_append_left _ member)).bind
      apply (read last (List.mem_append_right _ (List.mem_singleton.mpr rfl))).finish
      exact Reads.pure _

section Integers

variable [Starving ε]

theorem readU16 (number : UInt16) :
    Reads (Reader.readU16 : Reader ε UInt16) (beU16 number) number := by
  have field := (Reads.readUint (ε := ε) 2 number.toNat).map UInt16.ofNat
  rwa [Nat.mod_eq_of_lt (by simpa using number.toNat_lt), UInt16.ofNat_toNat] at field

theorem readI16 (number : Int16) :
    Reads (Reader.readI16 : Reader ε Int16) (beI16 number) number := by
  have field := (Reads.readU16 (ε := ε) number.toUInt16).map UInt16.toInt16
  rwa [Int16.toInt16_toUInt16] at field

theorem readI64 (number : Int64) :
    Reads (Reader.readI64 : Reader ε Int64) (beI64 number) number := by
  have field := (Reads.readU64 (ε := ε) number.toUInt64).map UInt64.toInt64
  rwa [Int64.toInt64_toUInt64] at field

theorem readI32 (number : Int32) :
    Reads (Reader.readI32 : Reader ε Int32) (beI32 number) number := by
  have field := (Reads.readU32 (ε := ε) number.toUInt32).map UInt32.toInt32
  rwa [Int32.toInt32_toUInt32] at field

theorem readFourCC (code : FourCC) :
    Reads (Reader.readFourCC : Reader ε FourCC) code.bytes code := by
  apply (Reads.readU8 code.first).bind
  apply (Reads.readU8 code.second).bind
  apply (Reads.readU8 code.third).bind
  apply (Reads.readU8 code.fourth).bind
  exact Reads.pure code

end Integers

end Reads

/-- The reader returns the value for the bytes, if they are the last ones. -/
def ReadsLast (reader : Reader ε α) (bytes : Bytes) (value : α) : Prop :=
  ∀ before : Bytes, reader (before ++ bytes) before.length =
    .ok (value, before.length + bytes.length)

theorem Reads.bindLast {first : Reader ε α} {next : α → Reader ε β} {bytes rest : Bytes}
    {middle : α} {value : β} (head : Reads first bytes middle)
    (tail : ReadsLast (next middle) rest value) :
    ReadsLast (first >>= next) (bytes ++ rest) value := by
  intro before
  have firstRead := head before rest
  have nextRead := tail (before ++ bytes)
  rw [List.append_assoc] at firstRead nextRead
  rw [List.length_append] at nextRead
  rw [bind_ok firstRead, nextRead, List.length_append, Nat.add_assoc]

theorem ReadsLast.parse {reader : Reader ε α} {bytes : Bytes} {value : α}
    (read : ReadsLast reader bytes value) : reader.parse bytes = .ok value := by
  have done := read []
  rw [List.nil_append, List.length_nil] at done
  unfold Reader.parse
  rw [done]

theorem ReadsLast.map {reader : Reader ε α} {bytes : Bytes} {value : α}
    (read : ReadsLast reader bytes value) (change : α → β) :
    ReadsLast (do return change (← reader)) bytes (change value) :=
  fun before => map_ok (read before) change

theorem ReadsLast.extractRemaining (bytes : Bytes) :
    ReadsLast (Reader.extractRemaining : Reader ε Bytes) bytes bytes := by
  intro before
  rw [Reader.extractRemaining, List.drop_left, List.length_append,
    Nat.max_eq_right (Nat.le_add_right _ _)]

/-- A field whose value nothing depends on. -/
theorem ReadsLast.behind {first : Reader ε α} {second : Reader ε β} {bytes rest : Bytes} {middle : α}
    {value : β} (read : ReadsLast second rest value) (head : Reads first bytes middle) :
    ReadsLast (do let _ ← first; second) (bytes ++ rest) value :=
  head.bindLast read

/-- A loop that stops with the buffer stops at its end. -/
theorem ReadsLast.atEnd (value : α) (more : Reader ε α) :
    ReadsLast (do if (← remaining) = 0 then return value else more) [] value := by
  intro before
  have nothing : (before ++ []).length - before.length = 0 := by
    rw [List.append_nil, Nat.sub_self]
  rw [bind_ok (show (remaining : Reader ε Nat) (before ++ []) before.length =
    .ok (_, before.length) from rfl), if_pos nothing]
  rfl

/-- With bytes left it goes on. -/
theorem ReadsLast.beforeEnd {more : Reader ε α} {bytes : Bytes} {value : α}
    (read : ReadsLast more bytes value) (nonempty : bytes ≠ []) (done : Reader ε α) :
    ReadsLast (do if (← remaining) = 0 then done else more) bytes value := by
  intro before
  have something : ¬(before ++ bytes).length - before.length = 0 := by
    rw [List.length_append, Nat.add_sub_cancel_left]
    exact fun none => nonempty (List.eq_nil_of_length_eq_zero none)
  rw [bind_ok (show (remaining : Reader ε Nat) (before ++ bytes) before.length =
    .ok (_, before.length) from rfl), if_neg something]
  exact read before

theorem Consumes.ofExcept (result : Except ε α) : Consumes 0 (Reader.ofExcept result) := by
  cases result with
  | error fault => exact Consumes.fail fault
  | ok value => exact Consumes.pure value

theorem Consumes.extractBytes [Starving ε] (size : Nat) :
    Consumes 0 (Reader.extractBytes size : Reader ε Bytes) := by
  unfold Reader.extractBytes
  split
  · exact Consumes.pure []
  · exact (Consumes.take size).weaken (Nat.zero_le size)

/-- What is cut out lies behind the position. -/
theorem length_extractBytes [Starving ε] {size : Nat} {buffer data : Bytes} {position stop : Nat}
    (read : (Reader.extractBytes size : Reader ε Bytes) buffer position = .ok (data, stop)) :
    data.length ≤ buffer.length - position := by
  unfold Reader.extractBytes at read
  split at read
  · cases read
    exact Nat.zero_le _
  · obtain ⟨same, _, _⟩ := take_eq_ok read
    rw [same, List.length_take, List.length_drop]
    exact Nat.min_le_right _ _

theorem extractBytes_stop [Starving ε] {size : Nat} {buffer data : Bytes} {position stop : Nat}
    (read : (Reader.extractBytes size : Reader ε Bytes) buffer position = .ok (data, stop)) :
    stop = position + size := by
  unfold Reader.extractBytes at read
  split at read
  · cases read
    omega
  · exact (take_eq_ok read).2.1

/-! ## Fixed sizes -/

section FixedSize

variable [Starving ε]

/-- The reader takes the next `count` bytes and returns, or it starves because they are not there. -/
def Takes (count : Nat) (reader : Reader ε α) : Prop :=
  ∀ (buffer : Bytes) (position : Nat),
    (position + count ≤ buffer.length ∧
      ∃ value, reader buffer position = .ok (value, position + count)) ∨
    (buffer.length < position + count ∧ reader buffer position = .error Starving.starved)

namespace Takes

theorem take (count : Nat) : Takes count (Reader.take count : Reader ε Bytes) := by
  intro buffer position
  by_cases present : position + count ≤ buffer.length
  · exact .inl ⟨present, _, take_of_le present⟩
  · exact .inr ⟨Nat.lt_of_not_le present, if_neg present⟩

theorem map {count : Nat} {reader : Reader ε α} (takes : Takes count reader) (next : α → β) :
    Takes count (do return next (← reader) : Reader ε β) := by
  intro buffer position
  rcases takes buffer position with ⟨present, value, read⟩ | ⟨short, starved⟩
  · exact .inl ⟨present, next value, map_ok read next⟩
  · exact .inr ⟨short, bind_error starved _⟩

theorem bind {first second : Nat} {reader : Reader ε α} {next : α → Reader ε β}
    (head : Takes first reader) (tail : ∀ value, Takes second (next value)) :
    Takes (first + second) (reader >>= next) := by
  intro buffer position
  rcases head buffer position with ⟨present, value, read⟩ | ⟨short, starved⟩
  · rw [bind_ok read, ← Nat.add_assoc]
    exact tail value buffer (position + first)
  · exact .inr ⟨by omega, bind_error starved _⟩

theorem readU8 : Takes 1 (Reader.readU8 : Reader ε UInt8) := map (map (take 1) _) _

theorem readU32 : Takes 4 (Reader.readU32 : Reader ε UInt32) := map (map (take 4) _) _

theorem extractBytes {size : Nat} (some : size ≠ 0) :
    Takes size (Reader.extractBytes size : Reader ε Bytes) := by
  rw [Reader.extractBytes, if_neg some]
  exact take size

end Takes

end FixedSize

/-! ## Records until the end -/

/-- The bytes of records that stand one after the other, none of them empty. -/
inductive ReadsAll (reader : Reader ε α) : List α → Bytes → Prop
  | nil : ReadsAll reader [] []
  | cons {value : α} {values : List α} {bytes rest : Bytes} (read : Reads reader bytes value)
      (nonempty : bytes ≠ []) (more : ReadsAll reader values rest) :
      ReadsAll reader (value :: values) (bytes ++ rest)

namespace ReadsAll

variable {reader : Reader ε α} {values : List α} {bytes : Bytes}

theorem length_le (records : ReadsAll reader values bytes) : values.length ≤ bytes.length := by
  induction records with
  | nil => exact Nat.le_refl 0
  | cons read nonempty more ih =>
      have occupied := List.length_pos_iff.mpr nonempty
      rw [List.length_cons, List.length_append]
      omega

/-- Records that fill the rest of the buffer are all read. -/
theorem whileRemaining (unfinished : ε) (records : ReadsAll reader values bytes) {rounds : Nat}
    (enough : values.length ≤ rounds) (before : Bytes) :
    Reader.whileRemaining unfinished reader rounds (before ++ bytes) before.length =
      .ok (values, before.length + bytes.length) := by
  induction records generalizing before rounds with
  | nil =>
      rw [List.append_nil]
      cases rounds with
      | zero => exact if_neg (Nat.lt_irrefl _)
      | succ rounds => exact if_neg (Nat.lt_irrefl _)
  | @cons value values bytes rest read nonempty more ih =>
      obtain ⟨rounds, rfl⟩ : ∃ fewer, rounds = fewer + 1 :=
        Nat.exists_eq_succ_of_ne_zero (Nat.ne_of_gt (Nat.lt_of_lt_of_le (by simp) enough))
      have first := read before rest
      have others := ih (Nat.le_of_succ_le_succ enough) (before ++ bytes)
      have occupied := List.length_pos_iff.mpr nonempty
      rw [List.append_assoc] at first others
      rw [List.length_append] at others
      unfold Reader.whileRemaining
      rw [if_pos (by simp only [List.length_append]; omega), bind_ok first, bind_ok others,
        pure_apply, List.length_append, Nat.add_assoc]

/-- Records that fill the rest of the buffer, read to its end. -/
theorem untilEnd (unfinished : ε) (records : ReadsAll reader values bytes) (before : Bytes) :
    Reader.untilEnd unfinished reader (before ++ bytes) before.length =
      .ok (values, before.length + bytes.length) := by
  have enough : values.length ≤ (before ++ bytes).length := by
    rw [List.length_append]
    exact Nat.le_trans records.length_le (Nat.le_add_left _ _)
  exact records.whileRemaining unfinished enough before

/-- Records that are the whole buffer. -/
theorem parse (unfinished : ε) (records : ReadsAll reader values bytes) :
    (Reader.untilEnd unfinished reader).parse bytes = .ok values := by
  have all := records.untilEnd unfinished []
  rw [List.nil_append, List.length_nil] at all
  rw [Reader.parse, all]

end ReadsAll

/-! ## Returning -/

/-- The reader returns a value or an error from every buffer: it does not panic
and its loops end. -/
class Returns (reader : Reader IoFault α) : Prop where
  returned : ∀ buffer position fault,
    reader buffer position = .error fault → fault.isReturned = true

namespace Returns

instance pure (value : α) : Returns (pure value : Reader IoFault α) := ⟨nofun⟩

instance bind {first : Reader IoFault α} {next : α → Reader IoFault β} [head : Returns first]
    [tail : ∀ value, Returns (next value)] : Returns (first >>= next) where
  returned buffer position fault failed := by
    rw [bind_apply] at failed
    cases read : first buffer position with
    | error earlier =>
        rw [read] at failed
        cases failed
        exact head.returned _ _ _ read
    | ok pair =>
        rw [read] at failed
        exact (tail pair.1).returned _ _ _ failed

instance ite {condition : Prop} [Decidable condition] {yes no : Reader IoFault α}
    [first : Returns yes] [second : Returns no] : Returns (if condition then yes else no) := by
  split
  · exact first
  · exact second

instance invalidData (message : String) :
    Returns (fail (.invalidData message) : Reader IoFault α) where
  returned _ _ _ failed := by
    cases failed
    rfl

instance take (count : Nat) : Returns (Reader.take count : Reader IoFault Bytes) where
  returned buffer position fault failed := by
    unfold Reader.take at failed
    split at failed
    · cases failed
    · cases failed
      rfl

instance extractRemaining : Returns (Reader.extractRemaining : Reader IoFault Bytes) := ⟨nofun⟩

instance remaining : Returns (Reader.remaining : Reader IoFault Nat) := ⟨nofun⟩

instance extractBytes (size : Nat) : Returns (Reader.extractBytes size : Reader IoFault Bytes) :=
  ite

instance readUint (width : Nat) : Returns (Reader.readUint width : Reader IoFault Nat) := bind

instance readU8 : Returns (Reader.readU8 : Reader IoFault UInt8) := bind

instance readU16 : Returns (Reader.readU16 : Reader IoFault UInt16) := bind

instance readU24 : Returns (Reader.readU24 : Reader IoFault UInt32) := bind

instance readU32 : Returns (Reader.readU32 : Reader IoFault UInt32) := bind

instance readU64 : Returns (Reader.readU64 : Reader IoFault UInt64) := bind

instance readI16 : Returns (Reader.readI16 : Reader IoFault Int16) := bind

instance readI32 : Returns (Reader.readI32 : Reader IoFault Int32) := bind

instance readI64 : Returns (Reader.readI64 : Reader IoFault Int64) := bind

instance readFourCC : Returns (Reader.readFourCC : Reader IoFault FourCC) := bind

instance optionally (present : Bool) (reader : Reader IoFault α) [Returns reader] :
    Returns (Reader.optionally present reader) :=
  ite

instance repeated (reader : Reader IoFault α) [Returns reader] (count : Nat) :
    Returns (Reader.repeated reader count) := by
  induction count with
  | zero => exact pure []
  | succ count ih => exact bind

instance readArray (reader : Reader IoFault α) [Returns reader] (count : Nat) :
    Returns (Reader.readArray reader count) := by
  induction count with
  | zero => exact pure #v[]
  | succ count ih => exact bind

/-- A loop that reads something in each round ends before its rounds do. -/
theorem whileRemaining {reader : Reader IoFault α} (moves : Consumes 1 reader) {rounds : Nat}
    {buffer : Bytes} {position : Nat} {fault : IoFault}
    (element : ∀ position fault,
      reader buffer position = .error fault → fault.isReturned = true)
    (enough : buffer.length ≤ position + rounds)
    (failed : Reader.whileRemaining IoFault.unfinished reader rounds buffer position =
      .error fault) : fault.isReturned = true := by
  induction rounds generalizing position with
  | zero =>
      unfold Reader.whileRemaining at failed
      rw [if_neg (by omega)] at failed
      cases failed
  | succ rounds ih =>
      unfold Reader.whileRemaining at failed
      split at failed
      · rw [bind_apply] at failed
        cases read : reader buffer position with
        | error earlier =>
            rw [read] at failed
            cases failed
            exact element _ _ read
        | ok pair =>
            obtain ⟨value, middle⟩ := pair
            have moved := moves _ _ _ _ read
            rw [read] at failed
            dsimp only at failed
            rw [bind_apply] at failed
            cases others : Reader.whileRemaining IoFault.unfinished reader rounds buffer middle with
            | error later =>
                rw [others] at failed
                cases failed
                exact ih (by omega) others
            | ok rest =>
                rw [others] at failed
                cases failed
      · cases failed

/-- The same for buffers that are shorter than a bound. -/
def Below (bound : Nat) (reader : Reader IoFault α) : Prop :=
  ∀ buffer position fault, buffer.length < bound →
    reader buffer position = .error fault → fault.isReturned = true

theorem below {reader : Reader IoFault α} [all : Returns reader] (bound : Nat) :
    Below bound reader :=
  fun _ _ _ _ failed => all.returned _ _ _ failed

theorem Below.bind {bound : Nat} {first : Reader IoFault α} {next : α → Reader IoFault β}
    (head : Below bound first) (tail : ∀ value, Below bound (next value)) :
    Below bound (first >>= next) := by
  intro buffer position fault short failed
  rw [bind_apply] at failed
  cases read : first buffer position with
  | error earlier =>
      rw [read] at failed
      cases failed
      exact head _ _ _ short read
  | ok pair =>
      rw [read] at failed
      exact tail pair.1 _ _ _ short failed

theorem Below.untilEnd {bound : Nat} {reader : Reader IoFault α} (element : Below bound reader)
    (moves : Consumes 1 reader) : Below bound (Reader.untilEnd IoFault.unfinished reader) := by
  intro buffer position fault short failed
  exact whileRemaining moves (fun position fault => element buffer position fault short)
    (Nat.le_add_left _ _) failed

theorem Below.parse {bound : Nat} {reader : Reader IoFault α} (all : Below bound reader)
    {data : Bytes} (short : data.length < bound) {fault : IoFault}
    (failed : reader.parse data = .error fault) : fault.isReturned = true := by
  unfold Reader.parse at failed
  split at failed
  · cases failed
  · cases failed
    exact all _ _ _ short ‹_›

theorem parse {reader : Reader IoFault α} [Returns reader] {data : Bytes} {fault : IoFault}
    (failed : reader.parse data = .error fault) : fault.isReturned = true :=
  (below (data.length + 1)).parse (Nat.lt_succ_self _) failed

end Returns

end Reader

end ScuffleVideo.Wire
