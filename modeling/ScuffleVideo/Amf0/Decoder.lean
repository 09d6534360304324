import ScuffleVideo.Amf0.Define

/-!
# AMF0 decoder

The decoder moves a cursor over a slice.  Fixed fields are read whole or not at
all; the bytes of a text are cut out of the slice at the length the peer
declared, after a seek that does not look where the slice ends.  The cursor
keeps its place after an error, so a failure carries the position it leaves.
-/

namespace ScuffleVideo.Amf0

open Wire Wire.Reader

/-- Where a field read that finds too few bytes leaves the cursor: where it was,
or at the end of the slice.  The standard library has done both. -/
inductive ShortRead where
  | stays
  | drains
  deriving DecidableEq, Repr

def ShortRead.position : ShortRead → Bytes → Nat → Nat
  | .stays, _, position => position
  | .drains, buffer, _ => buffer.length

inductive Amf0ReadError where
  | unknownMarker (marker : UInt8)
  | unsupportedType (marker : Amf0Marker)
  | stringParseError
  | io
  | wrongType (expected got : Amf0Marker)
  deriving DecidableEq, Repr

/-- How a call ends other than by returning a value. -/
inductive Halt where
  | error (reason : Amf0ReadError) (position : Nat)
  | panic
  | unfinished
  deriving DecidableEq, Repr

namespace Amf0Decoder

variable {α : Type} (shortRead : ShortRead)

/-- The decoder has reached the end of the slice. -/
def isEmpty (buffer : Bytes) (position : Nat) : Bool := buffer.length == position

def raise (reason : Amf0ReadError) : Reader Halt α := fun _ position =>
  .error (.error reason position)

/-- A field that is read whole. -/
def field (reader : Reader IoFault α) : Reader Halt α := fun buffer position =>
  match reader buffer position with
  | .ok result => .ok result
  | .error _ => .error (.error .io (shortRead.position buffer position))

def seekTo (position : Nat) : Reader Halt Unit := fun _ _ => .ok ((), position)

/-- The slice from the old position, taken after the cursor has moved.  A length
that goes past the end is an index out of range. -/
def readBytes (length : Nat) : Reader Halt Bytes := fun buffer position =>
  if position + length ≤ buffer.length then
    .ok ((buffer.drop position).take length, position + length)
  else
    .error .panic

/-- The text behind a length field of either width. -/
def readText (length : Reader Halt Nat) : Reader Halt String := do
  let length ← length
  let bytes ← readBytes length
  match fromUtf8 bytes with
  | some text => return text
  | none => raise .stringParseError

def readNumber : Reader Halt UInt64 := field shortRead readU64

def readBool : Reader Halt Bool := do
  let byte ← field shortRead readU8
  return decide (0 < byte)

def readString : Reader Halt String :=
  readText (do return (← field shortRead readU16).toNat)

def readLongString : Reader Halt String :=
  readText (do return (← field shortRead readU32).toNat)

def isReadObjectEof : Reader Halt Bool := fun buffer position =>
  match (readU24 : Reader IoFault UInt32) buffer position with
  | .ok (number, stop) =>
      if Amf0Marker.fromPrimitive number.toNat = some .objectEnd then .ok (true, stop)
      else .ok (false, position)
  | .error _ => .ok (false, position)

mutual

/-- Read the next value.  Values nest, and every level consumes a byte, so the
rounds are bounded by the bytes that remain. -/
def decodeWithin : Nat → Reader Halt Amf0Value
  | 0 => fail .unfinished
  | rounds + 1 => do
      let byte ← field shortRead readU8
      match Amf0Marker.fromPrimitive byte.toNat with
      | none => raise (.unknownMarker byte)
      | some .number => return .number (← readNumber shortRead)
      | some .boolean => return .boolean (← readBool shortRead)
      | some .string => return .string (← readString shortRead)
      | some .object => return .object (← readObjectWithin rounds)
      | some .null => return .null
      | some .ecmaArray => do
          let length ← field shortRead readU32
          let properties ← readEntriesWithin rounds length.toNat
          let _ ← isReadObjectEof
          return .object properties
      | some .longString => return .longString (← readLongString shortRead)
      | some marker => raise (.unsupportedType marker)

/-- The loop of `read_object`, which an end marker ends. -/
def readObjectWithin : Nat → Reader Halt (List (String × Amf0Value))
  | 0 => fail .unfinished
  | rounds + 1 => do
      if ← isReadObjectEof then return []
      else do
        let key ← readString shortRead
        let value ← decodeWithin rounds
        let properties ← readObjectWithin rounds
        return (key, value) :: properties

/-- The loop of `read_ecma_array`, which counts its entries. -/
def readEntriesWithin : Nat → Nat → Reader Halt (List (String × Amf0Value))
  | _, 0 => pure []
  | 0, _ + 1 => fail .unfinished
  | rounds + 1, count + 1 => do
      let key ← readString shortRead
      let value ← decodeWithin rounds
      let properties ← readEntriesWithin rounds count
      return (key, value) :: properties

end

def decode : Reader Halt Amf0Value := fun buffer position =>
  decodeWithin shortRead (buffer.length + 1) buffer position

/-- Look at the marker, go back to it and decode only when it is the specified
one. -/
def decodeWithType (specifiedMarker : Amf0Marker) : Reader Halt Amf0Value := do
  let position ← tell
  let byte ← field shortRead readU8
  seekTo position
  match Amf0Marker.fromPrimitive byte.toNat with
  | none => raise (.unknownMarker byte)
  | some marker =>
      if marker ≠ specifiedMarker then raise (.wrongType specifiedMarker marker)
      else decode shortRead

def decodeAllWithin : Nat → Reader Halt (List Amf0Value)
  | 0 => fun buffer position =>
      if isEmpty buffer position then .ok ([], position) else .error .unfinished
  | rounds + 1 => fun buffer position =>
      if isEmpty buffer position then .ok ([], position)
      else
        (do
          let value ← decode shortRead
          let values ← decodeAllWithin rounds
          return value :: values : Reader Halt (List Amf0Value)) buffer position

def decodeAll : Reader Halt (List Amf0Value) := fun buffer position =>
  decodeAllWithin shortRead buffer.length buffer position

/-- One call of the iterator: nothing at the end, else the next value or the
error in its place. -/
def next (buffer : Bytes) (position : Nat) : Option (Except Halt (Amf0Value × Nat)) :=
  if isEmpty buffer position then none else some (decode shortRead buffer position)

/-- Call the iterator until it has nothing more to give.  An error is an item like
a value, and the next call goes on from where it left the cursor. -/
def iterateWithin : Nat → Bytes → Nat →
    Except Halt (List (Except Amf0ReadError Amf0Value))
  | 0, buffer, position => if isEmpty buffer position then .ok [] else .error .unfinished
  | rounds + 1, buffer, position =>
      match next shortRead buffer position with
      | none => .ok []
      | some (.ok (value, stop)) => do
          let items ← iterateWithin rounds buffer stop
          return .ok value :: items
      | some (.error (.error reason stop)) => do
          let items ← iterateWithin rounds buffer stop
          return .error reason :: items
      | some (.error halt) => .error halt

def iterate (buffer : Bytes) (position : Nat) :
    Except Halt (List (Except Amf0ReadError Amf0Value)) :=
  iterateWithin shortRead buffer.length buffer position

end Amf0Decoder

end ScuffleVideo.Amf0
